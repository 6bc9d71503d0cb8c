import MultiDAQ.Lib.Run
import Mathlib.Logic.Function.Basic

/-!
# The announcement of a client

`ClientLivenessService` (`server/services/client_liveness_service.py`) with the threads of the three
managers, as far as one client is concerned: what they do for another client touches nothing of what
is kept for this one. A step of a thread is what it does under one lock. A manager admits a client
and reports it lost in its own thread, so a thread does one of the two at a time. An action that is
not enabled changes nothing.
-/

namespace MultiDAQ.Server

inductive CommandPlane
  | control
  | acquisition
  | monitoring
  deriving DecidableEq, Repr

def CommandPlane.all : List CommandPlane := [.control, .acquisition, .monitoring]

/-- The planes that the loss of a plane takes the client off, in order. -/
def CommandPlane.removedWith : CommandPlane → List CommandPlane
  | .control => [.monitoring, .acquisition, .control]
  | .acquisition => [.acquisition]
  | .monitoring => [.monitoring]

/-- Where the thread of a manager is. With `readmits` the loss is the one of the previous session of a
client that is being admitted. -/
inductive ManagerThread
  | idle
  /-- `handle_client_lost` has begun. -/
  | losing (readmits : Bool)
  /-- The loss is noted in `_loss_reported`. -/
  | reported (readmits : Bool)
  | removing (left : List CommandPlane) (readmits : Bool)
  /-- The client is removed, and still marked announced if it was. -/
  | discarding (readmits : Bool)
  /-- The client is about to be added to the plane. -/
  | adding
  /-- `handle_client_plane_connected` looks at the planes one after the other. -/
  | checking (left : List CommandPlane) (missing : Bool)
  /-- No plane was missing. -/
  | announcing
  deriving DecidableEq, Repr

/-- What happens to the client. -/
inductive LivenessEvent
  /-- It has come onto the last of the three planes. -/
  | completed
  /-- The notification of this plane returns True. -/
  | announced (plane : CommandPlane)
  deriving DecidableEq, Repr

structure ClientLiveness where
  /-- The planes the server state has the client on. -/
  onPlane : CommandPlane → Bool := fun _ => false
  clientAnnounced : Bool := false
  clientSeen : Bool := false
  lossReported : CommandPlane → Bool := fun _ => false
  thread : CommandPlane → ManagerThread := fun _ => .idle
  history : List LivenessEvent := []

inductive LivenessAction
  /-- The manager of the plane begins to admit the client. -/
  | join (plane : CommandPlane)
  /-- The manager of the plane reports the client lost. -/
  | lose (plane : CommandPlane)
  /-- The thread of the plane takes its next step. -/
  | next (plane : CommandPlane)
  deriving DecidableEq, Repr

namespace ClientLiveness

variable (s : ClientLiveness)

def goTo (plane : CommandPlane) (t : ManagerThread) : ClientLiveness :=
  { s with thread := Function.update s.thread plane t }

/-- The client is on all three planes. -/
def complete : Bool := CommandPlane.all.all s.onPlane

/-- Where a thread goes when a loss has been handled. -/
def afterLoss (readmits : Bool) : ManagerThread := if readmits then .adding else .idle

/-- The removal of one plane; the removal from the control plane drops the record of the client, and
the other planes with it. -/
def remove (plane : CommandPlane) : ClientLiveness :=
  { s with onPlane :=
    if plane = .control then fun _ => false else Function.update s.onPlane plane false }

/-- The client is marked announced no more. After the loss of the control plane the other planes are
reported afresh. -/
def discard (plane : CommandPlane) : ClientLiveness :=
  { s with
    clientAnnounced := false
    lossReported := fun p =>
      if plane = .control ∧ p ≠ .control then false else s.lossReported p }

/-- The client comes onto a plane. -/
def add (plane : CommandPlane) : ClientLiveness :=
  { s with
    onPlane := Function.update s.onPlane plane true
    history :=
      if CommandPlane.all.all (Function.update s.onPlane plane true) && !s.complete
        then s.history ++ [.completed] else s.history }

/-- The update under the lock of `handle_client_plane_connected`. -/
def announce (plane : CommandPlane) : ClientLiveness :=
  if s.clientAnnounced then s
  else { s with
    clientAnnounced := true
    clientSeen := true
    lossReported := fun _ => false
    history := s.history ++ [.announced plane] }

/-- A client is added to the acquisition or the monitoring plane only if it is on the control
plane. -/
def canAdd (plane : CommandPlane) : Bool := plane = .control || s.onPlane .control

def next (plane : CommandPlane) : ClientLiveness :=
  match s.thread plane with
  | .idle => s
  | .losing readmits =>
    { s with lossReported := Function.update s.lossReported plane true }.goTo plane
      (.reported readmits)
  | .reported readmits =>
    s.goTo plane (if s.onPlane plane then .removing plane.removedWith readmits
      else afterLoss readmits)
  | .removing [] readmits => s.goTo plane (.discarding readmits)
  | .removing (p :: left) readmits => (s.remove p).goTo plane (.removing left readmits)
  | .discarding readmits => (s.discard plane).goTo plane (afterLoss readmits)
  | .adding =>
    if s.canAdd plane then (s.add plane).goTo plane (.checking CommandPlane.all false)
    else s.goTo plane .idle
  | .checking [] missing => s.goTo plane (if missing then .idle else .announcing)
  | .checking (p :: left) missing => s.goTo plane (.checking left (missing || !s.onPlane p))
  | .announcing => (s.announce plane).goTo plane .idle

def step : LivenessAction → ClientLiveness
  | .join plane =>
    if s.thread plane = .idle then
      s.goTo plane (if s.onPlane plane then .losing true else .adding)
    else s
  | .lose plane => if s.thread plane = .idle then s.goTo plane (.losing false) else s
  | .next plane => s.next plane

end ClientLiveness

end MultiDAQ.Server
