import MultiDAQ.Common.Message
import MultiDAQ.Lib.Run
import Mathlib.Logic.Function.Basic

/-!
# The hellos on the data planes

How `AcquisitionPlaneManager` and `MonitoringPlaneManager` (`server/communication`) take the hello of
a client, as far as one client is concerned: the registry and the hellos that wait are kept by
client. A plane is served by its I/O loop and, while connect runs, by `handshake_core`. The control
plane admits and loses the client in a thread of its own. Times are in nanoseconds.
-/

namespace MultiDAQ.Server

open MultiDAQ.Common

inductive DataPlane
  | acquisition
  | monitoring
  deriving DecidableEq, Repr

def DataPlane.helloPhase : DataPlane → String
  | .acquisition => "acquisition_hello"
  | .monitoring => "monitoring_hello"

def DataPlane.helloText : DataPlane → String
  | .acquisition => "Acq_hello"
  | .monitoring => "Mon_hello"

/-- Who receives the messages of a plane. -/
inductive PlaneServer
  | ioLoop
  | handshakeCore
  deriving DecidableEq, Repr

/-- The payload is the text under `"message"`, if it is a text. -/
abbrev PlaneMessage := ProtocolMessage (Option String)

/-- The checks of `_accept_hello` on the message. -/
def DataPlane.isHello (plane : DataPlane) (message : PlaneMessage) : Bool :=
  message.msgType = .handshake ∧ message.phase = some plane.helloPhase ∧
    message.payload = some plane.helloText

structure PendingHello where
  message : PlaneMessage
  deadline : Nat
  deriving DecidableEq, Repr

/-- What is noted of the client on a plane. -/
inductive PlaneEvent
  /-- It is registered in answer to this hello. -/
  | registered (plane : DataPlane) (requestId : String)
  /-- It is reported lost because of a hello. -/
  | replaced (plane : DataPlane)
  deriving DecidableEq, Repr

def PlaneEvent.plane : PlaneEvent → DataPlane
  | .registered plane _ | .replaced plane => plane

structure PlaneHello where
  onControl : Bool := false
  onPlane : DataPlane → Bool := fun _ => false
  /-- The entry of the client in `_pending_hellos`, which only the acquisition plane has. -/
  pendingHello : Option PendingHello := none
  clock : Nat := 0
  history : List PlaneEvent := []

/-- `sent` says whether the answer to a hello can be sent. -/
inductive PlaneAction
  | wait (duration : Nat)
  | admitControl
  | loseControl
  /-- The liveness probe, or the sending of another message, finds the client gone from the plane. -/
  | losePlane (plane : DataPlane)
  | receive (plane : DataPlane) (server : PlaneServer) (message : PlaneMessage) (sent : Bool)
  /-- The rest of a turn of the I/O loop, after the reception. -/
  | turn (plane : DataPlane) (sent : Bool)
  /-- `stop_listener`, or a new socket. -/
  | stopListener (plane : DataPlane)
  deriving DecidableEq, Repr

namespace PlaneHello

/-- `LATE_HELLO_GRACE_S`. -/
def lateHelloGrace : Nat := 3000000000

variable (s : PlaneHello)

/-- The client is removed from a plane. -/
def leave (plane : DataPlane) : PlaneHello :=
  { s with onPlane := Function.update s.onPlane plane false }

/-- `add_client`. -/
def register (plane : DataPlane) (requestId : String) : PlaneHello :=
  { s with
    onPlane := Function.update s.onPlane plane true
    history := s.history ++ [.registered plane requestId] }

/-- The client is reported lost: it has been on the plane when its hello came. -/
def replace (plane : DataPlane) : PlaneHello :=
  { s.leave plane with history := s.history ++ [.replaced plane] }

/-- `_accept_hello`. -/
def acceptHello (plane : DataPlane) (message : PlaneMessage) (sent : Bool) : PlaneHello :=
  if !s.onControl then s
  else if !plane.isHello message then s
  else if !sent then s
  else
    let s := if s.onPlane plane then s.replace plane else s
    s.register plane message.requestId

/-- `_handle_late_hello`. -/
def handleLateHello (plane : DataPlane) (message : PlaneMessage) (sent : Bool) : PlaneHello :=
  match plane with
  | .acquisition =>
    if !s.onControl then
      { s with pendingHello := some { message, deadline := s.clock + lateHelloGrace } }
    else s.acceptHello .acquisition message sent
  | .monitoring => s.acceptHello .monitoring message sent

/-- `_retry_pending_hellos`. -/
def retryPendingHellos (sent : Bool) : PlaneHello :=
  match s.pendingHello with
  | none => s
  | some pending =>
    if s.onControl then
      -- out of the dictionary first
      { s with pendingHello := none }.acceptHello .acquisition pending.message sent
    else if pending.deadline < s.clock then { s with pendingHello := none }
    else s

def step : PlaneAction → PlaneHello
  | .wait duration => { s with clock := s.clock + duration }
  -- a client that is still registered is reported lost before
  | .admitControl =>
    if s.onControl then { s with onPlane := fun _ => false } else { s with onControl := true }
  | .loseControl => { s with onControl := false, onPlane := fun _ => false }
  | .losePlane plane => s.leave plane
  | .receive plane .ioLoop message sent =>
    if message.msgType = .handshake then s.handleLateHello plane message sent else s
  | .receive plane .handshakeCore message sent => s.acceptHello plane message sent
  | .turn .acquisition sent => s.retryPendingHellos sent
  | .turn .monitoring _ => s
  | .stopListener .acquisition => { s with pendingHello := none }
  | .stopListener .monitoring => s

end PlaneHello

end MultiDAQ.Server
