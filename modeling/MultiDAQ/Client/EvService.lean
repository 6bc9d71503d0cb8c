import MultiDAQ.Lib.Run
import Mathlib.Logic.Function.Basic

/-!
# The event producer service

`EVService.start` and `EVService.stop` (`client/hardware/evproducer/ev_service.py`), which the thread
of the control commands and the recovery thread of the acquisition plane call without a lock. One step
of a call is one look at `self.process` with what the call does with it, one assignment, or one
operation of the system. A call that finds `None` where it expects a process ends with an
`AttributeError`.
-/

namespace MultiDAQ.Client

inductive EvThread
  | control
  | recovery
  deriving DecidableEq, Repr

/-- A process that the service has spawned: its number, and which call of `start` has spawned it. -/
structure EvProcess where
  pid : Nat
  call : Nat
  deriving DecidableEq, Repr

/-- Where a thread is. A call of `start` has a number, and an attempt begins with 0. -/
inductive EvCall
  | idle
  -- `start`: `is_running`, in two looks, and the log line with the PID
  | start (call : Nat)
  | running (call : Nat)
  | runningPid
  -- one attempt
  | spawn (call attempt : Nat)
  | check (call attempt : Nat) (process : EvProcess)
  | store (call attempt : Nat) (process : EvProcess)
  | started (call attempt : Nat)
  | failed (call attempt : Nat)
  | loadModule (call : Nat)
  -- `stop`
  | stop
  | poll
  | reap
  | reaping (process : EvProcess)
  | signal
  | wait
  | waiting (process : EvProcess)
  | kill
  | waitKilled
  | waitingKilled (process : EvProcess)
  | clear
  deriving DecidableEq, Repr

structure EvService where
  process : Option EvProcess := none
  /-- Whether the executable was found. -/
  evPath : Bool := true
  calls : EvThread → EvCall := fun _ => .idle
  /-- The processes that have been spawned and have not exited. -/
  alive : List EvProcess := []
  spawned : Nat := 0
  /-- The calls of `start` so far. -/
  begun : Nat := 0
  /-- The calls of `start` that had begun when `stop` last returned `True`. -/
  stopped : Nat := 0

inductive EvAction
  | start (thread : EvThread) (clientId : Option Nat)
  | stop (thread : EvThread)
  /-- The next step of the call of a thread. `ok` says how it goes: whether a spawn, a startup check or
  a `modprobe` succeeds, and whether a wait goes on. -/
  | next (thread : EvThread) (ok : Bool)
  /-- A process exits. -/
  | exit (process : EvProcess)
  deriving DecidableEq, Repr

namespace EvService

variable (s : EvService)

def goto (thread : EvThread) (call : EvCall) : EvService :=
  { s with calls := Function.update s.calls thread call }

/-- `stop` returns `True`. -/
def returnStopped (thread : EvThread) : EvService :=
  { s with stopped := s.begun }.goto thread .idle

/-- A look at `self.process` that is expected not to be `None`. -/
def withProcess (thread : EvThread) (next : EvProcess → EvCall) : EvService :=
  match s.process with
  | none => s.goto thread .idle
  | some process => s.goto thread (next process)

def beginStart (thread : EvThread) (clientId : Option Nat) : EvService :=
  match s.calls thread with
  | .idle =>
    let s := { s with begun := s.begun + 1 }
    if clientId = none ∨ s.evPath = false then s else s.goto thread (.start (s.begun - 1))
  | _ => s

def beginStop (thread : EvThread) : EvService :=
  match s.calls thread with
  | .idle => s.goto thread .stop
  | _ => s

/-- `_spawn_evproducer`, which may raise. -/
def spawn (thread : EvThread) (call attempt : Nat) (ok : Bool) : EvService :=
  if ok then
    let process : EvProcess := { pid := s.spawned, call }
    { s with alive := process :: s.alive, spawned := s.spawned + 1 }.goto thread
      (.check call attempt process)
  else s.goto thread (.failed call attempt)

/-- A failed attempt: the module is loaded after the first one. -/
def giveUp (thread : EvThread) (call attempt : Nat) : EvService :=
  { s with process := none }.goto thread (if attempt = 0 then .loadModule call else .idle)

/-- A wait for a process: after its exit the call goes on to `self.process = None`. -/
def await (thread : EvThread) (process : EvProcess) (timedOut : Option EvCall) : EvService :=
  if process ∈ s.alive then
    match timedOut with
    | none => s
    | some call => s.goto thread call
  else s.goto thread .clear

def next (thread : EvThread) (ok : Bool) : EvService :=
  match s.calls thread with
  | .idle => s
  | .start call =>
    match s.process with
    | none => s.goto thread (.spawn call 0)
    | some _ => s.goto thread (.running call)
  | .running call =>
    s.withProcess thread fun p => if p ∈ s.alive then .runningPid else .spawn call 0
  | .runningPid => s.goto thread .idle
  | .spawn call attempt => s.spawn thread call attempt ok
  | .check call attempt p =>
    if p ∈ s.alive then if ok then s.goto thread (.store call attempt p) else s
    else s.goto thread (.failed call attempt)
  | .store call attempt p => { s with process := some p }.goto thread (.started call attempt)
  | .started call attempt =>
    match s.process with
    -- the PID for the log line is read again, inside the `try`
    | none => s.goto thread (.failed call attempt)
    | some _ => s.goto thread .idle
  | .failed call attempt => s.giveUp thread call attempt
  | .loadModule call => s.goto thread (if ok then .spawn call 1 else .idle)
  | .stop =>
    match s.process with
    | none => s.returnStopped thread
    | some _ => s.goto thread .poll
  | .poll => s.withProcess thread fun p => if p ∈ s.alive then .signal else .reap
  | .reap => s.withProcess thread .reaping
  | .reaping p => s.await thread p none
  | .signal => s.withProcess thread fun _ => .wait
  | .wait => s.withProcess thread .waiting
  | .waiting p => s.await thread p (if ok then none else some .kill)
  | .kill => s.withProcess thread fun _ => .waitKilled
  | .waitKilled => s.withProcess thread .waitingKilled
  | .waitingKilled p => s.await thread p none
  | .clear => { s with process := none }.returnStopped thread

def step : EvAction → EvService
  | .start thread clientId => s.beginStart thread clientId
  | .stop thread => s.beginStop thread
  | .next thread ok => s.next thread ok
  | .exit process => { s with alive := s.alive.filter (· ≠ process) }

end EvService

end MultiDAQ.Client
