import Mathlib.Data.List.Chain
import Mathlib.Order.Defs.LinearOrder
import Mathlib.Algebra.Order.Ring.Rat
import MultiDAQ.Client.MainService
import MultiDAQ.Lib.Run

/-!
# The alarm log of a sensor

The worker handles all the sensors of a check at once, with set differences. For one sensor that is a
latch (`alarmAfter`, `alarmEvents`): a value beyond its limits sets the alarm, a value within them
clears it, and a sensor that is not available leaves it as it is. An event is queued exactly when the
latch changes, so the events of a sensor alternate and the last one tells whether its alarm is active.
-/

namespace MultiDAQ.Client

open MultiDAQ.Lib

/-! ## The latch of one sensor -/

/-- What a check finds of a sensor. -/
inductive Observation
  | exceeds
  | within
  | unavailable
  deriving DecidableEq, Repr

inductive AlarmEvent
  | exceeded
  | recovered
  deriving DecidableEq, Repr

def alarmAfter (active : Bool) : Observation → Bool
  | .exceeds => true
  | .within => false
  | .unavailable => active

def alarmEvents (active : Bool) : Observation → List AlarmEvent
  | .exceeds => if active then [] else [.exceeded]
  | .within => if active then [.recovered] else []
  | .unavailable => []

/-- The events alternate, the first one is an excess, and the alarm is active exactly when the last
one is. -/
structure Alternates (events : List AlarmEvent) (active : Bool) : Prop where
  chain : events.IsChain (· ≠ ·)
  first : events.head? ≠ some .recovered
  last : active = true ↔ events.getLast? = some .exceeded

section Latch

variable {events : List AlarmEvent} {active : Bool}

theorem Alternates.exceeded (h : Alternates events false) :
    Alternates (events ++ [.exceeded]) true := by
  refine ⟨?_, ?_, by simp⟩
  · rw [List.isChain_append]
    refine ⟨h.chain, List.isChain_singleton _, fun last hlast first hfirst => ?_⟩
    rw [List.head?_cons, Option.mem_some_iff] at hfirst
    subst hfirst
    rintro rfl
    exact Bool.false_ne_true (h.last.2 hlast)
  · rw [List.head?_append]
    intro hhead
    cases hevents : events.head? with
    | none =>
      rw [hevents] at hhead
      cases hhead
    | some first =>
      rw [hevents] at hhead
      exact h.first (hevents.trans hhead)

theorem Alternates.recovered (h : Alternates events true) :
    Alternates (events ++ [.recovered]) false := by
  have hlast : events.getLast? = some .exceeded := h.last.1 rfl
  refine ⟨?_, ?_, by simp⟩
  · rw [List.isChain_append]
    refine ⟨h.chain, List.isChain_singleton _, fun last hmem first hfirst => ?_⟩
    rw [List.head?_cons, Option.mem_some_iff] at hfirst
    rw [hlast, Option.mem_some_iff] at hmem
    subst hfirst hmem
    decide
  · rw [List.head?_append]
    cases hevents : events.head? with
    | none =>
      rw [List.head?_eq_none_iff] at hevents
      rw [hevents] at hlast
      cases hlast
    | some first =>
      rw [Option.some_or]
      exact hevents ▸ h.first

/-- One check keeps the alternation. -/
theorem Alternates.after (h : Alternates events active) (o : Observation) :
    Alternates (events ++ alarmEvents active o) (alarmAfter active o) := by
  cases o with
  | unavailable => simpa [alarmEvents, alarmAfter] using h
  | exceeds =>
    cases active with
    | false => exact h.exceeded
    | true => simpa [alarmEvents, alarmAfter] using h
  | within =>
    cases active with
    | false => simpa [alarmEvents, alarmAfter] using h
    | true => exact h.recovered

end Latch

/-! ## One check -/

namespace MainSensor

/-- The limits of the sensor admit the value. -/
def WithinLimits (sensor : MainSensor) (value : ℚ) : Prop :=
  (∀ min ∈ sensor.limits.min, min ≤ value) ∧ ∀ max ∈ sensor.limits.max, value ≤ max

/-- What a check of these devices finds of the sensor. -/
def observation (sensor : MainSensor) (devices : MainDevices) : Observation :=
  match devices.sensorValues sensor with
  | none => .unavailable
  | some value => if (sensor.outOfRange value).isSome then .exceeds else .within

theorem mem_all (sensor : MainSensor) : sensor ∈ all := by
  cases sensor <;> decide

theorem mem_byName (sensor : MainSensor) : sensor ∈ byName := by
  cases sensor <;> decide

theorem nodup_all : all.Nodup := by decide

theorem nodup_byName : byName.Nodup := by decide

theorem outOfRange_eq_none {sensor : MainSensor} {value : ℚ} :
    sensor.outOfRange value = none ↔ sensor.WithinLimits value := by
  have hlow : sensor.limits.min.any (fun m => decide (value < m)) = true ↔
      ¬∀ min ∈ sensor.limits.min, min ≤ value := by
    cases sensor.limits.min <;> simp
  have hhigh : sensor.limits.max.any (fun m => decide (m < value)) = true ↔
      ¬∀ max ∈ sensor.limits.max, value ≤ max := by
    cases sensor.limits.max <;> simp
  unfold outOfRange WithinLimits
  dsimp only
  split
  · next h => exact ⟨nofun, fun hw => absurd hw.1 (hlow.1 h)⟩
  · next h =>
    rw [hlow, not_not] at h
    split
    · next h' => exact ⟨nofun, fun hw => absurd hw.2 (hhigh.1 h')⟩
    · next h' =>
      rw [hhigh, not_not] at h'
      exact ⟨fun _ => ⟨h, h'⟩, fun _ => rfl⟩

theorem outOfRange_sensor {sensor : MainSensor} {value : ℚ} {item : OutOfRange}
    (h : sensor.outOfRange value = some item) : item.sensor = sensor ∧ item.value = value := by
  unfold outOfRange at h
  dsimp only at h
  split at h
  · cases h
    exact ⟨rfl, rfl⟩
  · split at h
    · cases h
      exact ⟨rfl, rfl⟩
    · cases h

end MainSensor

namespace MainWarning

/-- The event of a warning about the sensor. -/
def about (sensor : MainSensor) : MainWarning → Option AlarmEvent
  | .thresholdExceeded details => if details.sensor = sensor then some .exceeded else none
  | .thresholdRecovered sensor' _ => if sensor' = sensor then some .recovered else none
  | .sensorEvent _ => none

end MainWarning

section Check

variable {devices : MainDevices} {sensor : MainSensor}

theorem mem_outOfRange {item : OutOfRange} :
    item ∈ (checkSensorThresholds devices).outOfRange ↔
      ∃ sensor value, devices.sensorValues sensor = some value ∧
        sensor.outOfRange value = some item := by
  simp only [checkSensorThresholds, List.mem_filterMap, Option.bind_eq_some_iff]
  exact ⟨fun ⟨sensor, _, value, h⟩ => ⟨sensor, value, h⟩,
    fun ⟨sensor, value, h⟩ => ⟨sensor, sensor.mem_all, value, h⟩⟩

theorem mem_currentAlarms :
    sensor ∈ ((checkSensorThresholds devices).outOfRange.map (·.sensor)).toFinset ↔
      sensor.observation devices = .exceeds := by
  rw [List.mem_toFinset, List.mem_map]
  unfold MainSensor.observation
  constructor
  · rintro ⟨item, hitem, rfl⟩
    obtain ⟨sensor, value, hvalue, hout⟩ := mem_outOfRange.1 hitem
    rw [(MainSensor.outOfRange_sensor hout).1, hvalue]
    simp only [hout, Option.isSome_some, if_true]
  · intro h
    split at h
    · cases h
    · next value hvalue =>
      split at h
      · next hsome =>
        obtain ⟨item, hitem⟩ := Option.isSome_iff_exists.1 hsome
        exact ⟨item, mem_outOfRange.2 ⟨sensor, value, hvalue, hitem⟩,
          (MainSensor.outOfRange_sensor hitem).1⟩
      · cases h

theorem mem_unavailable :
    sensor ∈ (checkSensorThresholds devices).unavailable.toFinset ↔
      sensor.observation devices = .unavailable := by
  rw [List.mem_toFinset]
  simp only [checkSensorThresholds, List.mem_filter, sensor.mem_all, true_and, decide_eq_true_iff]
  unfold MainSensor.observation
  cases devices.sensorValues sensor with
  | none => simp
  | some value => cases h : (sensor.outOfRange value).isSome <;> simp [h]

theorem sensors_sublist {f : MainSensor → Option OutOfRange}
    (hf : ∀ sensor item, f sensor = some item → item.sensor = sensor) (l : List MainSensor) :
    ((l.filterMap f).map (·.sensor)).Sublist l := by
  induction l with
  | nil => exact .slnil
  | cons sensor l ih =>
    rw [List.filterMap_cons]
    cases h : f sensor with
    | none => exact ih.cons _
    | some item =>
      rw [List.map_cons, hf sensor item h]
      exact ih.cons_cons _

/-- The details of an alarm are those of its sensor. -/
theorem get?_alarmData {item : OutOfRange} :
    ((checkSensorThresholds devices).outOfRange.foldl
      (fun d item => d.set item.sensor item) (Dict.empty : Dict MainSensor OutOfRange)).get? sensor =
        some item ↔
      item ∈ (checkSensorThresholds devices).outOfRange ∧ item.sensor = sensor := by
  have hmap : (checkSensorThresholds devices).outOfRange.foldl
      (fun d item => d.set item.sensor item) (Dict.empty : Dict MainSensor OutOfRange) =
      ((checkSensorThresholds devices).outOfRange.map fun item => (item.sensor, item)).foldl
        (fun d e => d.set e.1 e.2) Dict.empty := by
    rw [List.foldl_map]
  have hkeys : ((checkSensorThresholds devices).outOfRange.map (·.sensor)).Sublist
      MainSensor.all := by
    refine sensors_sublist (fun sensor item h => ?_) _
    obtain ⟨value, -, hout⟩ := Option.bind_eq_some_iff.1 h
    exact (MainSensor.outOfRange_sensor hout).1
  have hnodup : (((checkSensorThresholds devices).outOfRange.map
      fun item => (item.sensor, item)).reverse.map Prod.fst).Nodup := by
    rw [List.map_reverse, List.nodup_reverse, List.map_map]
    exact MainSensor.nodup_all.sublist hkeys
  rw [hmap, Dict.get?_foldl_set, Dict.get?_empty, Option.or_none,
    Dict.lookup_eq_some_iff hnodup, List.mem_reverse, List.mem_map]
  constructor
  · rintro ⟨item', hitem, heq⟩
    cases heq
    exact ⟨hitem, rfl⟩
  · rintro ⟨hitem, rfl⟩
    exact ⟨item, hitem, rfl⟩

theorem mem_sortedSensors {sensors : Finset MainSensor} :
    sensor ∈ sortedSensors sensors ↔ sensor ∈ sensors := by
  unfold sortedSensors
  rw [List.mem_filter, decide_eq_true_iff]
  exact and_iff_right sensor.mem_byName

theorem nodup_sortedSensors (sensors : Finset MainSensor) : (sortedSensors sensors).Nodup :=
  MainSensor.nodup_byName.filter _

/-- Of a list without repetitions, one sensor gives at most one event. -/
theorem filterMap_about (sensor : MainSensor) {l : List MainSensor} (hl : l.Nodup)
    (event : AlarmEvent) :
    (l.filterMap fun s => if s = sensor then some event else none) =
      if sensor ∈ l then [event] else [] := by
  induction l with
  | nil => rfl
  | cons s l ih =>
    obtain ⟨hs, hl⟩ := List.nodup_cons.1 hl
    rw [List.filterMap_cons, ih hl]
    by_cases h : s = sensor
    · subst h
      simp [hs]
    · simp [h, Ne.symm h]

/-- The alarms that are new give their events. -/
theorem about_exceeded (previous : Finset MainSensor) :
    ((sortedSensors (((checkSensorThresholds devices).outOfRange.map (·.sensor)).toFinset \
      previous)).filterMap fun s =>
        (((checkSensorThresholds devices).outOfRange.foldl (fun d item => d.set item.sensor item)
          (Dict.empty : Dict MainSensor OutOfRange)).get? s).map
            MainWarning.thresholdExceeded).filterMap (MainWarning.about sensor) =
      if sensor.observation devices = .exceeds ∧ sensor ∉ previous then [.exceeded] else [] := by
  rw [List.filterMap_filterMap]
  refine (List.filterMap_congr fun s hs => ?_).trans
    ((filterMap_about sensor (nodup_sortedSensors _) .exceeded).trans ?_)
  · rw [mem_sortedSensors, Finset.mem_sdiff, List.mem_toFinset, List.mem_map] at hs
    obtain ⟨⟨item, hitem, rfl⟩, -⟩ := hs
    rw [get?_alarmData.2 ⟨hitem, rfl⟩]
    rfl
  · refine if_congr ?_ rfl rfl
    rw [mem_sortedSensors, Finset.mem_sdiff, mem_currentAlarms]

/-- The alarms that are gone give theirs. -/
theorem about_recovered (previous : Finset MainSensor) :
    ((sortedSensors ((previous \
      ((checkSensorThresholds devices).outOfRange.map (·.sensor)).toFinset) \
        (checkSensorThresholds devices).unavailable.toFinset)).map fun s =>
          MainWarning.thresholdRecovered s ((checkSensorThresholds devices).values s)).filterMap
            (MainWarning.about sensor) =
      if sensor.observation devices = .within ∧ sensor ∈ previous then [.recovered] else [] := by
  rw [List.filterMap_map]
  refine (filterMap_about sensor (nodup_sortedSensors _) .recovered).trans ?_
  refine if_congr ?_ rfl rfl
  rw [mem_sortedSensors, Finset.mem_sdiff, Finset.mem_sdiff, mem_currentAlarms, mem_unavailable]
  cases sensor.observation devices <;> simp

end Check

namespace MainService

/-- The events of a sensor among the warnings. -/
def alarmLog (s : MainService) (sensor : MainSensor) : List AlarmEvent :=
  s.warnings.filterMap (MainWarning.about sensor)

def alarmed (s : MainService) (sensor : MainSensor) : Bool := sensor ∈ s.activeThresholdAlarms

section Handle

variable (s : MainService) (devices : MainDevices) (sensor : MainSensor)

theorem alarmed_handleThresholdResult :
    (s.handleThresholdResult (checkSensorThresholds devices)).alarmed sensor =
      alarmAfter (s.alarmed sensor) (sensor.observation devices) := by
  unfold alarmed handleThresholdResult
  simp only [Finset.mem_union, Finset.mem_inter, mem_currentAlarms, mem_unavailable]
  cases sensor.observation devices <;> simp [alarmAfter]

theorem alarmLog_handleThresholdResult :
    (s.handleThresholdResult (checkSensorThresholds devices)).alarmLog sensor =
      s.alarmLog sensor ++ alarmEvents (s.alarmed sensor) (sensor.observation devices) := by
  unfold alarmLog handleThresholdResult alarmed
  dsimp only
  rw [List.filterMap_append, List.filterMap_append, about_exceeded, about_recovered,
    List.append_assoc]
  congr 1
  cases sensor.observation devices <;> by_cases h : sensor ∈ s.activeThresholdAlarms <;>
    simp [alarmEvents, h]

/-- A check that is handled goes on with the alternation. -/
theorem alternates_handleThresholdResult
    (h : Alternates (s.alarmLog sensor) (s.alarmed sensor)) :
    Alternates ((s.handleThresholdResult (checkSensorThresholds devices)).alarmLog sensor)
      ((s.handleThresholdResult (checkSensorThresholds devices)).alarmed sensor) := by
  rw [alarmLog_handleThresholdResult, alarmed_handleThresholdResult]
  exact h.after _

end Handle

/-! ## Whole runs -/

section Runs

variable {s : MainService} {request : MainRequest}

/-- A round handles a check of the devices, or queues warnings about no threshold. -/
theorem process_cases (s : MainService) (request : MainRequest) :
    (∃ devices, request.command = .checkThresholds ∧ request.devices = .ok devices ∧
      s.process request = s.handleThresholdResult (checkSensorThresholds devices)) ∨
    ∃ events : List String,
      s.process request = { s with warnings := s.warnings ++ events.map .sensorEvent } := by
  have hsame : s = { s with warnings := s.warnings ++ ([] : List String).map .sensorEvent } := by
    rw [List.map_nil, List.append_nil]
  unfold process
  split
  · exact .inr ⟨[], hsame⟩
  · unfold mainWarnings
    split
    · split
      · exact .inr ⟨[], hsame⟩
      · exact .inr ⟨[], hsame⟩
      · next result hresponse =>
        unfold executeResponse at hresponse
        split at hresponse <;> cases hresponse
        next devices hcommand hdevices => exact .inl ⟨devices, hcommand, hdevices, rfl⟩
      · next events _ => exact .inr ⟨events, rfl⟩
    · exact .inr ⟨[], hsame⟩

theorem alternates_process {sensor : MainSensor}
    (h : Alternates (s.alarmLog sensor) (s.alarmed sensor)) (request : MainRequest) :
    Alternates ((s.process request).alarmLog sensor) ((s.process request).alarmed sensor) := by
  rcases process_cases s request with ⟨devices, -, -, heq⟩ | ⟨events, heq⟩
  · rw [heq]
    exact alternates_handleThresholdResult s devices sensor h
  · have hlog : (s.process request).alarmLog sensor = s.alarmLog sensor := by
      rw [heq]
      unfold alarmLog
      rw [List.filterMap_append, List.filterMap_map]
      have hnone : events.filterMap (MainWarning.about sensor ∘ .sensorEvent) = [] :=
        List.filterMap_eq_nil_iff.2 fun _ _ => rfl
      rw [hnone, List.append_nil]
    rw [hlog, heq]
    exact h

/-- What a round queues about thresholds comes from the values that it has read. -/
theorem process_warnings (s : MainService) (request : MainRequest) :
    ∃ queued, (s.process request).warnings = s.warnings ++ queued ∧
      (∀ sensor value, .thresholdRecovered sensor value ∈ queued → ∃ devices v,
        request.devices = .ok devices ∧ devices.sensorValues sensor = some v ∧ value = some v ∧
          sensor.WithinLimits v) ∧
      ∀ details, .thresholdExceeded details ∈ queued → ∃ devices,
        request.devices = .ok devices ∧
          devices.sensorValues details.sensor = some details.value ∧
            ¬details.sensor.WithinLimits details.value := by
  rcases process_cases s request with ⟨devices, -, hdevices, heq⟩ | ⟨events, heq⟩
  · rw [heq]
    refine ⟨_, List.append_assoc _ _ _, fun sensor value hmem => ?_, fun details hmem => ?_⟩
    · rcases List.mem_append.1 hmem with hmem | hmem
      · obtain ⟨sensor', -, h⟩ := List.mem_filterMap.1 hmem
        obtain ⟨item, -, h⟩ := Option.map_eq_some_iff.1 h
        cases h
      · obtain ⟨sensor', hrecovered, h⟩ := List.mem_map.1 hmem
        cases h
        rw [mem_sortedSensors, Finset.mem_sdiff, Finset.mem_sdiff, mem_currentAlarms,
          mem_unavailable] at hrecovered
        obtain ⟨⟨-, hexceeds⟩, havailable⟩ := hrecovered
        unfold MainSensor.observation at hexceeds havailable
        cases hvalue : devices.sensorValues sensor with
        | none =>
          rw [hvalue] at havailable
          exact absurd rfl havailable
        | some v =>
          rw [hvalue] at hexceeds
          refine ⟨devices, v, hdevices, hvalue, hvalue, MainSensor.outOfRange_eq_none.1 ?_⟩
          rw [← Option.not_isSome_iff_eq_none]
          exact fun hsome => hexceeds (if_pos hsome)
    · rcases List.mem_append.1 hmem with hmem | hmem
      · obtain ⟨sensor', -, h⟩ := List.mem_filterMap.1 hmem
        obtain ⟨item, hitem, h⟩ := Option.map_eq_some_iff.1 h
        cases h
        obtain ⟨hitem, -⟩ := get?_alarmData.1 hitem
        obtain ⟨sensor, value, hvalue, hout⟩ := mem_outOfRange.1 hitem
        obtain ⟨rfl, rfl⟩ := MainSensor.outOfRange_sensor hout
        refine ⟨devices, hdevices, hvalue, fun hwithin => ?_⟩
        rw [MainSensor.outOfRange_eq_none.2 hwithin] at hout
        cases hout
      · obtain ⟨sensor', -, h⟩ := List.mem_map.1 hmem
        cases h
  · rw [heq]
    refine ⟨_, rfl, fun sensor value hmem => ?_, fun details hmem => ?_⟩
    · obtain ⟨event, -, h⟩ := List.mem_map.1 hmem
      cases h
    · obtain ⟨event, -, h⟩ := List.mem_map.1 hmem
      cases h

/-- After any sequence of rounds the events of each sensor alternate, and its alarm is active exactly
when the last one is an excess; a round queues a recovery only of a sensor whose value it has read,
within its limits. -/
theorem alarm_log_alternates (requests : List MainRequest) :
    (∀ sensor, Alternates ((run process {} requests).alarmLog sensor)
      ((run process {} requests).alarmed sensor)) ∧
    ∀ before request after, requests = before ++ request :: after →
      ∃ queued, (run process {} (before ++ [request])).warnings =
          (run process {} before).warnings ++ queued ∧
        ∀ sensor value, .thresholdRecovered sensor value ∈ queued → ∃ devices v,
          request.devices = .ok devices ∧ devices.sensorValues sensor = some v ∧ value = some v ∧
            sensor.WithinLimits v := by
  constructor
  · intro sensor
    have hrun : Meets process (fun _ _ => True) {} requests :=
      meets_of_forall (fun _ _ => trivial) _
    refine run_invariant (I := fun s => Alternates (s.alarmLog sensor) (s.alarmed sensor))
      (fun s request h _ => alternates_process h request) ?_ hrun
    exact ⟨List.isChain_nil, nofun, by simp [alarmLog, alarmed]⟩
  · intro before request after _
    rw [run_append]
    obtain ⟨queued, hqueued, hrecovered, -⟩ := process_warnings (run process {} before) request
    exact ⟨queued, hqueued, hrecovered⟩

end Runs

end MainService

end MultiDAQ.Client
