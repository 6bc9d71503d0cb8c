import MultiDAQ.Lib.Run
import Mathlib.Logic.Function.Basic

/-!
# The samples of a section

`MonitorSampleService` (`client/core/monitor_sample_service.py`), for one section: its producer, the
calls that start and stop it, and the thread that takes samples from its queue, which holds one. A
step is what a thread does at once. When a sample is due does not matter here, nor what is measured.
-/

namespace MultiDAQ.Client

/-- The beginning of a measurement: when it was, how many stops had taken effect, and whether the
section was enabled. Of these the sample keeps the time only. -/
structure SampleStart where
  monotonicNs : Int
  stops : Nat
  enabled : Bool
  deriving DecidableEq, Repr

structure MonitorSample where
  sequence : Nat
  start : SampleStart
  /-- The stops that had taken effect when the measurement ended; for the record only. -/
  stopsAtEnd : Nat
  deriving DecidableEq, Repr

/-- Where `_store_sample` is. -/
inductive StoreStage
  | put
  | evict
  | putAgain
  deriving DecidableEq, Repr

/-- Where the producer is. -/
inductive ProducerTask
  | idle
  /-- It has read that the section is enabled, and a sample is due. -/
  | due
  | measuring (start : SampleStart)
  | storing (stage : StoreStage) (sample : MonitorSample)
  deriving DecidableEq, Repr

/-- Where a call of `stop_section` is: it empties the queue, and knows how many starts had taken
effect before it. -/
inductive StopTask
  | idle
  | emptying (starts : Nat)
  deriving DecidableEq, Repr

structure SampleSection where
  enabled : Bool := false
  queue : Option MonitorSample := none
  sequence : Nat := 0
  producer : ProducerTask := .idle
  stopCalls : Nat → StopTask := fun _ => .idle
  /-- The starts and stops that have taken effect. -/
  starts : Nat := 0
  stops : Nat := 0
  /-- A stop has returned that took effect after the last start. -/
  stopped : Bool := false
  /-- The sequence number of the sample that was stored last. -/
  newest : Option Nat := none
  taken : List MonitorSample := []

inductive SectionAction
  /-- `start_section`. -/
  | start
  /-- A call of `stop_section` disables the section. -/
  | stop (call : Nat)
  /-- It takes a sample from the queue, or finds it empty and returns. -/
  | empty (call : Nat)
  /-- The producer goes on: whether a sample is due, the time, whether a measurement succeeds. -/
  | produce (due : Bool) (nowNs : Int) (success : Bool)
  /-- The forwarder takes the sample. -/
  | take
  deriving DecidableEq, Repr

namespace SampleSection

variable (s : SampleSection)

def startSection : SampleSection :=
  { s with enabled := true, starts := s.starts + 1, stopped := false }

def stopSection (call : Nat) : SampleSection :=
  match s.stopCalls call with
  | .idle =>
    { s with
      enabled := false
      stops := s.stops + 1
      stopCalls := Function.update s.stopCalls call (.emptying s.starts) }
  | .emptying _ => s

def emptyQueue (call : Nat) : SampleSection :=
  match s.stopCalls call, s.queue with
  | .idle, _ => s
  | .emptying _, some _ => { s with queue := none }
  | .emptying starts, none =>
    { s with
      stopCalls := Function.update s.stopCalls call .idle
      stopped := s.stopped || starts = s.starts }

/-- `put_nowait` of a sample that fits. -/
def put (sample : MonitorSample) : SampleSection :=
  { s with queue := some sample, newest := some sample.sequence, producer := .idle }

/-- The next step of `_store_sample`. -/
def storeSample (sample : MonitorSample) : StoreStage → SampleSection
  | .put =>
    match s.queue with
    | none => s.put sample
    | some _ => { s with producer := .storing .evict sample }
  | .evict => { s with queue := none, producer := .storing .putAgain sample }
  | .putAgain =>
    match s.queue with
    | none => s.put sample
    | some _ => { s with producer := .idle }

/-- The next step of `_section_loop` and `_produce_sample`. -/
def produce (due : Bool) (nowNs : Int) (success : Bool) : SampleSection :=
  match s.producer with
  | .idle => if s.enabled && due then { s with producer := .due } else s
  | .due => { s with producer := .measuring ⟨nowNs, s.stops, s.enabled⟩ }
  | .measuring start =>
    if success then
      { s with
        sequence := s.sequence + 1
        producer := .storing .put ⟨s.sequence, start, s.stops⟩ }
    else { s with producer := .idle }
  | .storing stage sample => s.storeSample sample stage

def takeSample : SampleSection :=
  match s.queue with
  | none => s
  | some sample => { s with queue := none, taken := s.taken ++ [sample] }

def step (s : SampleSection) : SectionAction → SampleSection
  | .start => s.startSection
  | .stop call => s.stopSection call
  | .empty call => s.emptyQueue call
  | .produce due nowNs success => s.produce due nowNs success
  | .take => s.takeSample

end SampleSection

end MultiDAQ.Client
