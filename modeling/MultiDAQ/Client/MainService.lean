import Mathlib.Data.Finset.Basic
import Mathlib.Data.Rat.Defs
import MultiDAQ.Lib.Dict

/-!
# The sensor checks of the main board

`MAIN.check_sensor_thresholds` (`client/hardware/main/main_interface.py`), and what the worker thread
of `MainService` (`client/hardware/main/main_service.py`) makes of the responses of its own checks: the
warnings that it queues and the set of the sensors with an alarm. Rational numbers stand for the
floats.
-/

namespace MultiDAQ.Client

open MultiDAQ.Lib

/-! ## Sensors -/

/-- The keys of `MAIN_SENSOR_THRESHOLDS`. -/
inductive MainSensor
  | envTemperatureC
  | envHumidityPct
  | powerRailAin0V
  | powerRailAin2V
  | fpgaTemperatureC
  deriving DecidableEq, Repr

structure Limits where
  min : Option ℚ := none
  max : Option ℚ := none
  deriving DecidableEq, Repr

namespace MainSensor

def name : MainSensor → String
  | envTemperatureC => "env.temperature_c"
  | envHumidityPct => "env.humidity_pct"
  | powerRailAin0V => "power.rail_ain0_v"
  | powerRailAin2V => "power.rail_ain2_v"
  | fpgaTemperatureC => "fpga.temperature_c"

/-- The values of `MAIN_SENSOR_THRESHOLDS`. -/
def limits : MainSensor → Limits
  | envTemperatureC => { min := some (-25), max := some 40 }
  | envHumidityPct => { min := some 0, max := some 75 }
  | powerRailAin0V => { min := some (22 / 5), max := some (27 / 5) }
  | powerRailAin2V => { min := some (16 / 5), max := some (17 / 5) }
  | fpgaTemperatureC => { max := some 80 }

/-- The order of the table. -/
def all : List MainSensor :=
  [envTemperatureC, envHumidityPct, powerRailAin0V, powerRailAin2V, fpgaTemperatureC]

/-- The order of the names. -/
def byName : List MainSensor :=
  [envHumidityPct, envTemperatureC, fpgaTemperatureC, powerRailAin0V, powerRailAin2V]

end MainSensor

/-- `sorted` of a set of sensors. -/
def sortedSensors (sensors : Finset MainSensor) : List MainSensor :=
  MainSensor.byName.filter (· ∈ sensors)

example : (MainSensor.byName.map MainSensor.name).Pairwise (· < ·) := by decide

/-! ## `check_sensor_thresholds` -/

structure EnvData where
  temperatureC : Option ℚ
  humidityPct : Option ℚ
  deriving DecidableEq, Repr

structure PowerData where
  railAin0V : Option ℚ
  railAin2V : Option ℚ
  deriving DecidableEq, Repr

structure FpgaData where
  temperatureC : Option ℚ
  deriving DecidableEq, Repr

/-- What the devices give; `none` for one that is missing. -/
structure MainDevices where
  env : Option EnvData := none
  power : Option PowerData := none
  fpga : Option FpgaData := none
  deriving DecidableEq, Repr

/-- `sensor_values`. -/
def MainDevices.sensorValues (devices : MainDevices) : MainSensor → Option ℚ
  | .envTemperatureC => devices.env.bind (·.temperatureC)
  | .envHumidityPct => devices.env.bind (·.humidityPct)
  | .powerRailAin0V => devices.power.bind (·.railAin0V)
  | .powerRailAin2V => devices.power.bind (·.railAin2V)
  | .fpgaTemperatureC => devices.fpga.bind (·.temperatureC)

inductive Direction
  | low
  | high
  deriving DecidableEq, Repr

structure OutOfRange where
  sensor : MainSensor
  value : ℚ
  min : Option ℚ
  max : Option ℚ
  direction : Direction
  deriving DecidableEq, Repr

/-- A value that is not `None` against its limits. -/
def MainSensor.outOfRange (sensor : MainSensor) (value : ℚ) : Option OutOfRange :=
  let limits := sensor.limits
  if limits.min.any (value < ·) then some ⟨sensor, value, limits.min, limits.max, .low⟩
  else if limits.max.any (· < value) then some ⟨sensor, value, limits.min, limits.max, .high⟩
  else none

structure ThresholdResult where
  values : MainSensor → Option ℚ
  outOfRange : List OutOfRange
  unavailable : List MainSensor

def checkSensorThresholds (devices : MainDevices) : ThresholdResult where
  values := devices.sensorValues
  outOfRange := MainSensor.all.filterMap fun sensor =>
    (devices.sensorValues sensor).bind sensor.outOfRange
  unavailable := MainSensor.all.filter fun sensor => devices.sensorValues sensor = none

/-! ## The warnings -/

inductive MainWarning
  | thresholdExceeded (details : OutOfRange)
  | thresholdRecovered (sensor : MainSensor) (value : Option ℚ)
  /-- An event of `main_check_events`. -/
  | sensorEvent (event : String)
  deriving DecidableEq, Repr

structure MainService where
  activeThresholdAlarms : Finset MainSensor := ∅
  /-- What was put into `warning_queue`. -/
  warnings : List MainWarning := []
  deriving DecidableEq

namespace MainService

/-- `_handle_threshold_result`. -/
def handleThresholdResult (s : MainService) (result : ThresholdResult) : MainService :=
  let currentAlarms := (result.outOfRange.map (·.sensor)).toFinset
  let alarmData := result.outOfRange.foldl
    (fun d item => d.set item.sensor item) (Dict.empty : Dict MainSensor OutOfRange)
  let unavailable := result.unavailable.toFinset
  let previousAlarms := s.activeThresholdAlarms
  let newAlarms := currentAlarms \ previousAlarms
  let recoveredAlarms := (previousAlarms \ currentAlarms) \ unavailable
  let stillActiveUnavailable := previousAlarms ∩ unavailable
  { activeThresholdAlarms := currentAlarms ∪ stillActiveUnavailable
    warnings := s.warnings ++
      (sortedSensors newAlarms).filterMap
        (fun sensor => (alarmData.get? sensor).map .thresholdExceeded) ++
      (sortedSensors recoveredAlarms).map
        fun sensor => .thresholdRecovered sensor (result.values sensor) }

/-! ## The worker -/

inductive MainCommand
  | readSnapshot
  | checkThresholds
  | checkEvents
  | sensorStatus
  | unknown
  deriving DecidableEq, Repr

/-- A response, by what `_main_warnings` reads of it. -/
inductive MainResponse
  | error
  | thresholds (result : ThresholdResult)
  | events (events : List String)
  | other

/-- A request that the worker takes from its queue, and what it meets: the deadline that has passed,
devices that raise, what the devices give and the events that the check finds. -/
structure MainRequest where
  command : MainCommand
  /-- The sender is one of the two periodic checks. -/
  periodic : Bool
  expired : Bool
  devices : Except Unit MainDevices
  events : List String

/-- `_execute_response`. -/
def executeResponse (request : MainRequest) : MainResponse :=
  match request.command, request.devices with
  | .checkThresholds, .ok devices => .thresholds (checkSensorThresholds devices)
  | .checkThresholds, .error () => .error
  | .checkEvents, _ => .events request.events
  | .readSnapshot, .ok _ | .sensorStatus, .ok _ => .other
  | .readSnapshot, .error () | .sensorStatus, .error () | .unknown, _ => .error

/-- `_main_warnings`. -/
def mainWarnings (s : MainService) (request : MainRequest) (response : MainResponse) :
    MainService :=
  if request.periodic then
    match response with
    | .error | .other => s
    | .thresholds result => s.handleThresholdResult result
    | .events events => { s with warnings := s.warnings ++ events.map .sensorEvent }
  else s

/-- One round of `_worker_loop`. -/
def process (s : MainService) (request : MainRequest) : MainService :=
  if request.expired then s else s.mainWarnings request (executeResponse request)

end MainService

end MultiDAQ.Client
