import MultiDAQ.Server.ControlHandshake
import MultiDAQ.Server.PlaneHello

/-!
# What the server answers in a handshake

The messages that the handlers of `ControlPlaneManager` and `_accept_hello` of the two data planes
(`server/communication`) send to the client.
-/

namespace MultiDAQ.Server

open MultiDAQ.Common

/-- The entries of the payload of an answer that the client reads. -/
structure ControlReplyPayload where
  message : Option String := none
  acqMode : Option String := none
  macClientId : Option Int := none
  deriving DecidableEq, Repr

abbrev ControlReply := ProtocolMessage ControlReplyPayload

namespace ControlPlane

variable (s : ControlPlane)

/-- `create_handshake` of an answer. -/
def replyTo (message : HandshakeMessage) (turn : HandshakeTurn) (phase : String)
    (payload : ControlReplyPayload) : ControlReply where
  msgType := .handshake
  requestId := turn.requestId
  payload := payload
  phase := some phase
  inReplyTo := some message.requestId

/-- What the I/O loop sends to a client for a message of it. -/
def reply (cid : ClientId) (message : HandshakeMessage) (turn : HandshakeTurn) :
    Option ControlReply :=
  if s.io ≠ .idle ∨ message.msgType ≠ .handshake ∨ !turn.sent then none
  else
    match HandshakePhase.ofText message.phase, s.handshakeSessions.get? cid with
    | some .hello, _ =>
      if checkHandshakeMessage message .hello none then
        some (replyTo message turn "hello_ack" { message := some "Alive" })
      else none
    | some .ready, some session =>
      if checkHandshakeMessage message .ready (some session.lastSentRequestId) then
        some (replyTo message turn "startup"
          { message := some "Startup", acqMode := some s.serverState.acqMode })
      else none
    | some .startupAck, some session =>
      if checkHandshakeMessage message .startupAck (some session.lastSentRequestId) ∧
          s.serverState.validateHandshakeIdentity cid message.payload.identity ∧
          turn.macClientId ≠ none then
        some (replyTo message turn "end"
          { message := some "End", macClientId := turn.macClientId })
      else none
    | _, _ => none

end ControlPlane

/-! ## The data planes -/

def DataPlane.readyPhase : DataPlane → String
  | .acquisition => "acquisition_ready"
  | .monitoring => "monitoring_ready"

def DataPlane.readyText : DataPlane → String
  | .acquisition => "Acq_alive"
  | .monitoring => "Mon_alive"

/-- `create_handshake` of the answer to a hello. -/
def DataPlane.ready (plane : DataPlane) (message : PlaneMessage) (requestId : String) :
    PlaneMessage where
  msgType := .handshake
  requestId := requestId
  payload := some plane.readyText
  phase := some plane.readyPhase
  inReplyTo := some message.requestId

/-- What `_accept_hello` sends to a client for its hello. -/
def PlaneHello.reply (s : PlaneHello) (plane : DataPlane) (message : PlaneMessage)
    (requestId : String) (sent : Bool) : Option PlaneMessage :=
  if !s.onControl then none
  else if !plane.isHello message then none
  else if !sent then none
  else some (plane.ready message requestId)

end MultiDAQ.Server
