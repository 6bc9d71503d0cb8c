import MultiDAQ.Lib.Retry
import MultiDAQ.Server.HandshakeReplies

/-!
# The handshakes of a client

`handshake_core` and `handshake` of the three planes of a client (`client/communication`), together
with the handlers of the server. What waits on the socket of the client is received in the order in
which it was sent; the answer to a message is sent behind it, and comes before the client stops waiting.
What waits before the first attempt may be anything, such as answers to earlier attempts that
came too late for them. Between two attempts the server may do anything.
-/

namespace MultiDAQ.Client

open MultiDAQ.Common MultiDAQ.Lib MultiDAQ.Server

/-- A frame on the socket: the empty one of the liveness probe, one that is no message, or a
message. -/
inductive SocketFrame (Payload : Type)
  | probe
  | unreadable
  | message (message : ProtocolMessage Payload)

/-- `receive_message`, with what is left on the socket. Nothing is received if nothing is left when the time
is up. -/
def receiveMessage {Payload : Type} :
    List (SocketFrame Payload) → Option (ProtocolMessage Payload) × List (SocketFrame Payload)
  | [] => (none, [])
  | .probe :: frames => receiveMessage frames
  | .unreadable :: frames => (none, frames)
  | .message message :: frames => (some message, frames)

/-! ## The control plane -/

/-- `ACQUISITION_MODES`. -/
def acquisitionModes : List String := ["test", "calibration", "multipmt"]

/-- A message that the client sends: its id, whether it can be sent, and what the handler of the
server meets. -/
structure Outgoing where
  requestId : String
  sent : Bool := true
  turn : HandshakeTurn

/-- An attempt: the state of the server when it begins, the messages, and the identity of the client,
if it can be read. -/
structure ControlAttempt where
  server : ControlPlane
  hello : Outgoing
  ready : Outgoing
  startupAck : Outgoing
  conclusion : Outgoing
  identity : Option Identity

/-- The socket of the client, the server, and what the handshake stores in the runtime. -/
structure ControlLink where
  frames : List (SocketFrame ControlReplyPayload)
  acqMode : Option String := none
  macToId : Option Int := none
  server : ControlPlane

namespace ControlLink

variable (link : ControlLink) (cid : ClientId)

/-- `create_handshake` of a message of the client. -/
def createHandshake (phase : HandshakePhase) (requestId : String) (inReplyTo : Option String)
    (identity : Option Identity) : HandshakeMessage where
  msgType := .handshake
  requestId := requestId
  payload := { message := some phase.expectedMessage, identity := identity }
  phase := some phase.text
  inReplyTo := inReplyTo

/-- `send_message`, and the answer of the server. -/
def send (message : HandshakeMessage) (turn : HandshakeTurn) : ControlLink :=
  { link with
    frames := link.frames ++ (link.server.reply cid message turn).toList.map .message
    server := link.server.step (.receive cid message turn) }

/-- The answer to a message of the client is received, and passes the checks. -/
def expect (phase text inReplyTo : String) : Option ControlReply × ControlLink :=
  match receiveMessage link.frames with
  | (none, frames) => (none, { link with frames })
  | (some message, frames) =>
    if message.msgType = .handshake ∧ message.phase = some phase ∧
        message.payload.message = some text ∧ message.inReplyTo = some inReplyTo then
      (some message, { link with frames })
    else (none, { link with frames })

/-- `handshake_core` from the `ready` on. -/
def afterAlive (a : ControlAttempt) (alive : ControlReply) : Bool × ControlLink :=
  if !a.ready.sent then (false, link)
  else
    let link := link.send cid
      (createHandshake .ready a.ready.requestId (some alive.requestId) none) a.ready.turn
    match link.expect "startup" "Startup" a.ready.requestId with
    | (none, link) => (false, link)
    | (some startup, link) =>
      if startup.payload.acqMode.all fun acqMode => acqMode ∉ acquisitionModes then (false, link)
      else
        let link := { link with acqMode := startup.payload.acqMode }
        if a.identity = none ∨ !a.startupAck.sent then (false, link)
        else
          let link := link.send cid (createHandshake .startupAck a.startupAck.requestId
            (some startup.requestId) a.identity) a.startupAck.turn
          match link.expect "end" "End" a.startupAck.requestId with
          | (none, link) => (false, link)
          | (some conclusion, link) =>
            if conclusion.payload.macClientId = none then (false, link)
            else
              let link := { link with macToId := conclusion.payload.macClientId }
              if !a.conclusion.sent then (false, link)
              else (true, link.send cid (createHandshake .conclusion a.conclusion.requestId
                (some conclusion.requestId) none) a.conclusion.turn)

/-- `handshake_core`. -/
def handshakeCore (a : ControlAttempt) : Bool × ControlLink :=
  let link := { link with server := a.server }
  if !a.hello.sent then (false, link)
  else
    let link := link.send cid (createHandshake .hello a.hello.requestId none none) a.hello.turn
    match link.expect "hello_ack" "Alive" a.hello.requestId with
    | (none, link) => (false, link)
    | (some alive, link) => link.afterAlive cid a alive

/-- `handshake`, with the attempts that it makes at most. -/
def handshake (attempts : List ControlAttempt) : Bool × ControlLink :=
  retry (fun a link => handshakeCore link cid a) attempts link

end ControlLink

/-! ## The data planes -/

/-- An attempt on a data plane. -/
structure PlaneAttempt where
  server : PlaneHello
  requestId : String
  sent : Bool := true
  /-- The id of the answer, and whether the server can send it. -/
  readyId : String
  readySent : Bool := true

abbrev PlaneFrames := List (SocketFrame (Option String))

/-- The `ready` of an earlier attempt that the server answered late. -/
def isLateReady (plane : DataPlane) (message : PlaneMessage) (helloId : String) : Bool :=
  message.msgType = .handshake ∧ message.phase = some plane.readyPhase ∧
    message.inReplyTo ≠ some helloId

/-- The loop that waits for the `ready`, and the checks behind it. -/
def awaitReady (plane : DataPlane) (helloId : String) : PlaneFrames → Bool × PlaneFrames
  | [] => (false, [])
  | .probe :: frames => awaitReady plane helloId frames
  | .unreadable :: frames => (false, frames)
  | .message message :: frames =>
    if isLateReady plane message helloId then awaitReady plane helloId frames
    else (message.msgType = .handshake ∧ message.phase = some plane.readyPhase ∧
      message.payload = some plane.readyText ∧ message.inReplyTo = some helloId, frames)

/-- The hello of an attempt. -/
def PlaneAttempt.hello (plane : DataPlane) (a : PlaneAttempt) : PlaneMessage where
  msgType := .handshake
  requestId := a.requestId
  payload := some plane.helloText
  phase := some plane.helloPhase

/-- `handshake_core`. -/
def planeHandshakeCore (plane : DataPlane) (a : PlaneAttempt) (frames : PlaneFrames) :
    Bool × PlaneFrames :=
  if !a.sent then (false, frames)
  else awaitReady plane a.requestId (frames ++
    (a.server.reply plane (a.hello plane) a.readyId a.readySent).toList.map .message)

/-- `handshake`, with the attempts that it makes at most. -/
def planeHandshake (plane : DataPlane) (attempts : List PlaneAttempt) (frames : PlaneFrames) :
    Bool × PlaneFrames :=
  retry (planeHandshakeCore plane) attempts frames

end MultiDAQ.Client
