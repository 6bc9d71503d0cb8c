import Mathlib.Data.Rat.Defs
import Mathlib.Logic.Function.Basic
import MultiDAQ.Lib.Counters

/-!
# The metrics of the acquisition

What `PrometheusMetricsService` (`server/services/prometheus_metrics_service.py`) exports of the
messages of the receiver, which `_parse_metrics_message` (`server/acquisition/receiver_service.py`)
reads. A counter or a gauge is a dictionary from its labels to its value; the values of `Counter` and
`Gauge` are exact here, not rounded. The labels of a source are looked up when its message is handled.
-/

namespace MultiDAQ.Server

open MultiDAQ.Lib

abbrev SourceId := List Char

/-- The counters of a source; the gauge of the rate of each goes by the same name. -/
inductive AcquisitionCounter
  | eventsReceived
  | eventsWritten
  | bytesReceived
  deriving DecidableEq, Repr

/-- The message of `publish_source_metrics`. -/
structure SourceMetric where
  sourceId : SourceId
  value : AcquisitionCounter → Int
  timestampMonotonicNs : Int

inductive AcquisitionMetric
  | source (metric : SourceMetric)
  | worker (worker queueSize queueCapacity : Int)
  | sourceStop (sourceId : SourceId)

/-- `source_labels`. -/
structure SourceLabels where
  clientId : String
  multipmtId : String
  batchId : String
  deriving DecidableEq, Repr

structure AcquisitionMetrics where
  /-- The exported counters. -/
  counters : AcquisitionCounter → Dict SourceLabels Int := fun _ => .empty
  acquisitionCounterState : Dict (AcquisitionCounter × SourceId) Int := .empty
  rates : AcquisitionCounter → Dict SourceLabels ℚ := fun _ => .empty
  acquisitionRateState : Dict SourceId SourceMetric := .empty
  lastUpdate : Dict SourceLabels ℚ := .empty
  queueSize : Dict Int Int := .empty
  queueCapacity : Dict Int Int := .empty
  queueFillRatio : Dict Int ℚ := .empty

/-- A message that is handled: what `_get_acquisition_client_labels` finds for its source, and the
time. -/
structure Handling where
  metric : AcquisitionMetric
  labels : Option SourceLabels
  timeS : ℚ

/-- `delta` in `_update_acquisition_counter`. -/
def counterDelta (previous : Option Int) (value : Int) : Int :=
  match previous with
  | none => value
  | some previous =>
    if previous ≤ value then value - previous
    else
      -- evreceiver restarted
      value

namespace AcquisitionMetrics

variable (s : AcquisitionMetrics)

/-- `_update_acquisition_counter`. -/
def updateAcquisitionCounter (counter : AcquisitionCounter) (labels : SourceLabels)
    (sourceId : SourceId) (value : Int) : AcquisitionMetrics :=
  if value < 0 then s
  else
    let delta := counterDelta (s.acquisitionCounterState.get? (counter, sourceId)) value
    { s with
      counters :=
        if 0 < delta then
          Function.update s.counters counter ((s.counters counter).addTo labels delta)
        else s.counters
      acquisitionCounterState := s.acquisitionCounterState.set (counter, sourceId) value }

/-- The rates since the previous message of the source, if no counter has gone down. -/
def updateRates (labels : SourceLabels) (m : SourceMetric) : AcquisitionMetrics :=
  let rated :=
    match s.acquisitionRateState.get? m.sourceId with
    | none => s
    | some previous =>
      let dtNs := m.timestampMonotonicNs - previous.timestampMonotonicNs
      let countersValid := previous.value .eventsReceived ≤ m.value .eventsReceived ∧
        previous.value .eventsWritten ≤ m.value .eventsWritten ∧
        previous.value .bytesReceived ≤ m.value .bytesReceived
      if 0 < dtNs ∧ countersValid then
        let dtS : ℚ := dtNs / 1000000000
        { s with rates := fun counter =>
            (s.rates counter).set labels ((m.value counter - previous.value counter : Int) / dtS) }
      else s
  { rated with acquisitionRateState := s.acquisitionRateState.set m.sourceId m }

/-- The branch of a source whose labels are known. -/
def handleSource (labels : SourceLabels) (m : SourceMetric) (timeS : ℚ) : AcquisitionMetrics :=
  let s := s.updateAcquisitionCounter .eventsReceived labels m.sourceId (m.value .eventsReceived)
  let s := s.updateAcquisitionCounter .eventsWritten labels m.sourceId (m.value .eventsWritten)
  let s := s.updateAcquisitionCounter .bytesReceived labels m.sourceId (m.value .bytesReceived)
  let s := s.updateRates labels m
  { s with lastUpdate := s.lastUpdate.set labels timeS }

/-- `handle_acquisition_metrics`. -/
def handleAcquisitionMetrics (h : Handling) : AcquisitionMetrics × Bool :=
  match h.metric, h.labels with
  | .source _, none => (s, false)
  | .source m, some labels => (s.handleSource labels m h.timeS, true)
  | .worker worker queueSize queueCapacity, _ =>
    ({ s with
        queueSize := s.queueSize.set worker queueSize
        queueCapacity := s.queueCapacity.set worker queueCapacity
        queueFillRatio := s.queueFillRatio.set worker
          (if 0 < queueCapacity then queueSize / queueCapacity else 0) },
      true)
  | .sourceStop _, none => (s, false)
  | .sourceStop sourceId, some labels =>
    ({ s with
        rates := fun counter => (s.rates counter).set labels 0
        acquisitionRateState := s.acquisitionRateState.erase sourceId },
      true)

/-- The messages are handled one after the other. -/
def handleAll (hs : List Handling) : AcquisitionMetrics :=
  hs.foldl (fun s h => (s.handleAcquisitionMetrics h).1) s

/-- The value of a counter for a client: what its series with the label of the client add up to. -/
def exported (counter : AcquisitionCounter) (clientId : String) : Int :=
  (s.counters counter).total fun labels => labels.clientId = clientId

end AcquisitionMetrics

/-- What a counter of a source is reported to be, in the messages that are handled with labels. -/
def Handling.reported (counter : AcquisitionCounter) (sourceId : SourceId) (h : Handling) :
    Option Int :=
  match h.metric, h.labels with
  | .source m, some _ => if m.sourceId = sourceId then some (m.value counter) else none
  | _, _ => none

/-- The values of a counter that a receiver process has reported for a source. -/
def reportedValues (counter : AcquisitionCounter) (sourceId : SourceId) (hs : List Handling) :
    List Int :=
  hs.filterMap (·.reported counter sourceId)

end MultiDAQ.Server
