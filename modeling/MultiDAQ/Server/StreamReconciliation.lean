import MultiDAQ.Server.MonitorStreams

/-!
# Reconciliation in the background

`reconcile_client_streams_in_background` of `MonitorStreamService`
(`server/services/monitor_stream_service.py`): a request of a reconciliation starts a worker for the
client, or marks the client when it has one. A worker goes through the streams of its client, and
again if the client has been marked meanwhile. What it does to the streams is modelled apart; here a
pass answers, or raises.
-/

namespace MultiDAQ.Server

/-- `STREAM_RECONCILE_ATTEMPTS`. -/
def streamReconcileAttempts : Nat := 3

/-- Where a worker is. -/
inductive ReconcileTask
  | idle
  /-- A pass is to begin. -/
  | launched (clientId : ClientId)
  /-- An attempt of the pass is to begin, if the client is connected. -/
  | attempting (clientId : ClientId) (attempt : Nat)
  /-- `reconcile_client_streams` runs. -/
  | reconciling (clientId : ClientId) (attempt : Nat)
  /-- The pass is over; the lock is to be taken. -/
  | passed (clientId : ClientId) (success : Bool)
  /-- The pass has raised; the lock is to be taken. -/
  | crashed (clientId : ClientId)
  /-- The worker has no client any more, and calls `on_done`. -/
  | reporting (clientId : ClientId) (success : Bool)
  deriving DecidableEq, Repr

/-- The client of the worker, until it gives it up under the lock. -/
def ReconcileTask.client : ReconcileTask → Option ClientId
  | .launched clientId | .attempting clientId _ | .reconciling clientId _ | .passed clientId _
  | .crashed clientId => some clientId
  | .idle | .reporting _ _ => none

structure StreamReconciliation where
  /-- `_reconcile_running`. -/
  running : ClientId → Bool := fun _ => false
  /-- `_reconcile_again`. -/
  again : ClientId → Bool := fun _ => false
  tasks : Nat → ReconcileTask := fun _ => .idle

inductive ReconcileAction
  /-- `worker` is the thread that is made, if it can be made and has to be. -/
  | request (clientId : ClientId) (worker : Option Nat)
  /-- `connected` is what `is_client_connected` answers, and `reply` how
  `reconcile_client_streams` ends. -/
  | advance (worker : Nat) (connected : Bool) (reply : StreamOutcome)
  deriving DecidableEq, Repr

namespace StreamReconciliation

variable (s : StreamReconciliation)

def goto (worker : Nat) (task : ReconcileTask) : StreamReconciliation :=
  { s with tasks := Function.update s.tasks worker task }

def setRunning (clientId : ClientId) (value : Bool) : StreamReconciliation :=
  { s with running := Function.update s.running clientId value }

def setAgain (clientId : ClientId) (value : Bool) : StreamReconciliation :=
  { s with again := Function.update s.again clientId value }

/-- `reconcile_client_streams_in_background`. A client stays in `_reconcile_running` when the thread
of its worker cannot be made. -/
def request (clientId : ClientId) (worker : Option Nat) : StreamReconciliation :=
  if s.running clientId then s.setAgain clientId true
  else
    match worker with
    | none => s.setRunning clientId true
    | some worker =>
      -- the thread is a new one
      if s.tasks worker = .idle then
        (s.setRunning clientId true).goto worker (.launched clientId)
      else s

/-- `_reconcile_worker` and `_reconcile_with_retries`. -/
def advance (worker : Nat) (connected : Bool) (reply : StreamOutcome) : StreamReconciliation :=
  match s.tasks worker with
  | .idle => s
  | .launched clientId => s.goto worker (.attempting clientId 1)
  | .attempting clientId attempt =>
    if connected then s.goto worker (.reconciling clientId attempt)
    else s.goto worker (.passed clientId false)
  | .reconciling clientId attempt =>
    match reply with
    | .success => s.goto worker (.passed clientId true)
    | .failure =>
      if attempt < streamReconcileAttempts then s.goto worker (.attempting clientId (attempt + 1))
      else s.goto worker (.passed clientId false)
    | .raised => s.goto worker (.crashed clientId)
  | .passed clientId success =>
    if s.again clientId then (s.setAgain clientId false).goto worker (.launched clientId)
    else (s.setRunning clientId false).goto worker (.reporting clientId success)
  | .crashed clientId =>
    ((s.setRunning clientId false).setAgain clientId false).goto worker (.reporting clientId false)
  | .reporting _ _ => s.goto worker .idle

def step : ReconcileAction → StreamReconciliation
  | .request clientId worker => s.request clientId worker
  | .advance worker connected reply => s.advance worker connected reply

end StreamReconciliation

end MultiDAQ.Server
