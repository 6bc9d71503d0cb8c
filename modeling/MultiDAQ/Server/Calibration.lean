import Mathlib.Data.Rat.Defs
import MultiDAQ.Server.Registry

/-!
# Calibrations

The readers of the calibration in `server/utils/json_parser.py`, and what
`server/services/acquisition_service.py` makes of them: the configuration of a multiPMT for one
threshold in photo-electrons, and the conversions of thresholds between photo-electrons and mV.
Rational numbers stand for the floats.
-/

namespace MultiDAQ.Server

open Lib

/-- How a function ends without a value. -/
inductive Failure
  | returnsNone
  | raises
  deriving DecidableEq, Repr

/-- A value that is tested against `None` later. -/
def optional {α : Type} : Except Failure α → Except Failure (Option α)
  | .ok a => .ok (some a)
  | .error .returnsNone => .ok none
  | .error .raises => .error .raises

/-! ## The file -/

/-- A value of the file; a boolean is the number that it equals. -/
inductive JsonValue
  | null
  | number (value : ℚ)
  | text (value : String)
  | container (empty : Bool)
  deriving DecidableEq, Repr

namespace JsonValue

def truthy : JsonValue → Bool
  | null => false
  | number value => value ≠ 0
  | text value => value ≠ ""
  | container empty => !empty

def hashable : JsonValue → Bool
  | container _ => false
  | _ => true

/-- A value in a formula. A product of a text or a list with an integer does not raise, but the
division that follows does. -/
def operand : JsonValue → Except Failure ℚ
  | number value => .ok value
  | _ => .error .raises

end JsonValue

/-- The value under a channel: the fields that are read, a dictionary that lacks one of them, or
something that is not a dictionary. -/
inductive Entry (υ : Type)
  | fields (values : υ)
  | missing
  | malformed
  deriving DecidableEq, Repr

/-- `config_file[name]["data"]`: its values by key (`none` for a key that is not an integer), a
`KeyError`, or something that is not a dictionary. -/
inductive Section (ε : Type)
  | data (entries : List (Option Int × ε))
  | missing
  | malformed
  deriving DecidableEq, Repr

def Section.entries {ε : Type} : Section ε → Except Failure (List (Option Int × ε))
  | data entries => .ok entries
  | missing => .error .returnsNone
  | malformed => .error .raises

structure CalibrationFile where
  pe : Section (Entry JsonValue) := .missing
  gain : Section (Entry JsonValue) := .missing
  threshold : Section (Entry (JsonValue × JsonValue)) := .missing
  serials : Section JsonValue := .missing
  deriving DecidableEq, Repr

/-- What `JsonParser(multipmt_id, batch_id)` makes of the files. -/
inductive ParserResult
  | raises
  | noFile
  | loaded (file : CalibrationFile)
  deriving DecidableEq, Repr

/-- `config_file`. -/
def ParserResult.configFile : ParserResult → Except Failure (Option CalibrationFile)
  | raises => .error .raises
  | noFile => .ok none
  | loaded file => .ok (some file)

/-! ## The readers -/

/-- One round of a loop: the field is read before the key is converted. -/
def readEntry {υ : Type} : Option Int × Entry υ → Except Failure (Int × υ)
  | (_, .missing) => .error .returnsNone
  | (_, .malformed) => .error .raises
  | (none, .fields _) => .error .raises
  | (some ch, .fields values) => .ok (ch, values)

def readSection {υ : Type} (file : Option CalibrationFile)
    (part : CalibrationFile → Section (Entry υ)) : Except Failure (Dict Int υ) :=
  match file with
  | none => .error .returnsNone
  | some file => do
    let entries ← (part file).entries
    Dict.setEach readEntry entries .empty

def loadPeData (file : Option CalibrationFile) : Except Failure (Dict Int JsonValue) :=
  readSection file (·.pe)

def loadVoltageGainData (file : Option CalibrationFile) : Except Failure (Dict Int JsonValue) :=
  readSection file (·.gain)

/-- The values of `m` and `q`. -/
def loadThresholdParameters (file : Option CalibrationFile) :
    Except Failure (Dict Int (JsonValue × JsonValue)) :=
  readSection file (·.threshold)

def readSerial : Option Int × JsonValue → Except Failure (Int × JsonValue)
  | (none, _) => .error .raises
  | (some ch, serial) => .ok (ch, serial)

def getJsonSerialChannelMap (file : Option CalibrationFile) :
    Except Failure (Dict Int JsonValue) :=
  match file with
  | none => .error .returnsNone
  | some file => do
    let entries ← file.serials.entries
    Dict.setEach readSerial entries .empty

structure ChConfiguration where
  voltage : JsonValue
  threshold : ℚ
  thresholdPe : ℚ
  thresholdAdc : ℚ
  deriving DecidableEq, Repr

/-- One round of the loop of `get_ch_configuration`. -/
def chConfiguration (thrFitParameters : Dict Int (JsonValue × JsonValue))
    (voltageGain : Dict Int JsonValue) (peThr : ℚ) (ch : Int) (peAdc : JsonValue) :
    Except Failure ChConfiguration :=
  match thrFitParameters.get? ch, voltageGain.get? ch with
  | none, _ | some _, none => .error .returnsNone
  | some (m, q), some voltage =>
    if m = .number 0 then .error .returnsNone
    else do
      let adcThr := peThr * (← peAdc.operand)
      let thrValueMv := (adcThr - (← q.operand)) / (← m.operand)
      return {
        voltage := voltage
        threshold := thrValueMv
        thresholdPe := peThr
        thresholdAdc := adcThr }

def getChConfiguration (file : Option CalibrationFile) (peThr : ℚ) :
    Except Failure (Dict Int ChConfiguration) :=
  if peThr ≤ 0 then .error .returnsNone
  else do
    let thrFitParameters ← optional (loadThresholdParameters file)
    let peReference ← optional (loadPeData file)
    let voltageGain ← optional (loadVoltageGainData file)
    match thrFitParameters, peReference, voltageGain with
    | some thrFitParameters, some peReference, some voltageGain =>
      peReference.mapValsM (chConfiguration thrFitParameters voltageGain peThr)
    | _, _, _ => .error .returnsNone

/-! ## The detector of a client -/

namespace ServerState

/-- `get_configuration_identity`: the values of `multipmt_id` and `batch_id`. -/
def getConfigurationIdentity (s : ServerState) (cid : ClientId) :
    Option (Option PyValue × Option PyValue) := do
  let r ← s.clients.get? cid
  match r.configurationIdentity, r.identity with
  | some chosen, _ =>
    return (some ⟨chosen.multipmtId, chosen.multipmtId ≠ ""⟩,
      some ⟨chosen.batchId, chosen.batchId ≠ ""⟩)
  | none, some identity => return (identity.multipmtId, identity.batchId)
  | none, none => none

def getCalibrationExcludedChannels (s : ServerState) (cid : ClientId) : List Int :=
  match s.clients.get? cid with
  | none => []
  | some r => r.calibrationExcludedChannels

/-- The two ids, or why there are none. -/
def detectorIds (s : ServerState) (cid : ClientId) : Except String (String × String) :=
  match s.getConfigurationIdentity cid with
  | none => .error "no configuration identity"
  | some (some multipmtId, some batchId) =>
    if !multipmtId.truthy || !batchId.truthy then .error "incomplete configuration identity"
    else .ok (multipmtId.text, batchId.text)
  | some _ => .error "incomplete configuration identity"

end ServerState

/-! ## The conversions -/

/-- Why a channel gets no threshold in mV. -/
abbrev Reason := String

/-- `m`, `q` and `PE_ADC`. -/
structure Calibration where
  m : JsonValue
  q : JsonValue
  peAdc : JsonValue
  deriving DecidableEq, Repr

/-- The serial tells the channel of the detector that has it. -/
def namesChannel (serial : JsonValue) : Bool :=
  serial.truthy && serial ≠ .text "0"

/-- The dictionary by serial: the last channel with a serial has it. -/
def analysisChannelBySerial (jsonSerialByChannel : Dict Int JsonValue) :
    Except Failure (Dict JsonValue Int) :=
  Dict.setEach
    (fun e => if e.2.hashable then .ok (e.2, e.1) else .error .raises)
    (jsonSerialByChannel.entries.filter fun e => namesChannel e.2) .empty

/-- One round of the loop of `_load_calibration_by_channel`. -/
def calibrationOf (thrFitParameters : Dict Int (JsonValue × JsonValue))
    (peReference : Dict Int JsonValue) (channelBySerial : Dict JsonValue Int) (serial : String) :
    Option Calibration := do
  let analysisCh ← channelBySerial.get? (.text serial)
  let (m, q) ← thrFitParameters.get? analysisCh
  let peAdc ← peReference.get? analysisCh
  return ⟨m, q, peAdc⟩

section Service

variable (parser : String → String → ParserResult) (s : ServerState) (cid : ClientId)

/-- `_load_calibration_by_channel`: the calibrations, or why none can be read. -/
def loadCalibrationByChannel (serialByChannel : Dict Int String) :
    Except Failure (Except Reason (Dict Int Calibration)) :=
  match s.detectorIds cid with
  | .error reason => .ok (.error reason)
  | .ok (multipmtId, batchId) => do
    let file ← (parser multipmtId batchId).configFile
    let thrFitParameters ← optional (loadThresholdParameters file)
    let peReference ← optional (loadPeData file)
    let jsonSerialByChannel ← optional (getJsonSerialChannelMap file)
    match thrFitParameters, peReference, jsonSerialByChannel with
    | some thrFitParameters, some peReference, some jsonSerialByChannel =>
      let channelBySerial ← analysisChannelBySerial jsonSerialByChannel
      return .ok (serialByChannel.collect fun _ serial =>
        calibrationOf thrFitParameters peReference channelBySerial serial)
    | _, _, _ => return .error "calibration data not available"

/-- One round of the loop of `_convert_pe_map_to_mv`. -/
def peToMv (calibrationByChannel : Dict Int Calibration) (ch : Int) (pe : ℚ) :
    Except Failure (Except Reason ℚ) :=
  match calibrationByChannel.get? ch with
  | none => .ok (.error "no PE calibration matching the PMT serial of the channel")
  | some c =>
    if c.m = .number 0 then .ok (.error "invalid threshold fit (m=0)")
    else do
      let adcThr := pe * (← c.peAdc.operand)
      return .ok ((adcThr - (← c.q.operand)) / (← c.m.operand))

def valueOf {υ : Type} : Except Reason υ → Option υ
  | .ok value => some value
  | .error _ => none

def reasonOf {υ : Type} : Except Reason υ → Option Reason
  | .ok _ => none
  | .error reason => some reason

/-- `_convert_pe_map_to_mv`: the thresholds in mV, and the excluded channels. -/
def convertPeMapToMv (peByChannel : Dict Int ℚ) (serialByChannel : Dict Int String) :
    Except Failure (Dict Int ℚ × Dict Int Reason) := do
  match ← loadCalibrationByChannel parser s cid serialByChannel with
  | .error reason => return (.empty, peByChannel.mapVals fun _ _ => reason)
  | .ok calibrationByChannel =>
    let outcomes ← peByChannel.mapValsM (peToMv calibrationByChannel)
    return (outcomes.collect fun _ => valueOf, outcomes.collect fun _ => reasonOf)

/-- One round of the loop of `_convert_mv_map_to_pe`. -/
def mvToPe (calibrationByChannel : Dict Int Calibration) (excludedChannels : List Int) (ch : Int)
    (thresholdMv : Option ℚ) : Except Failure (Option ℚ) :=
  match thresholdMv, calibrationByChannel.get? ch with
  | some thresholdMv, some c =>
    if ch ∈ excludedChannels then .ok none
    else if c.peAdc = .number 0 then .ok none
    else do
      return some (((← c.m.operand) * thresholdMv + (← c.q.operand)) / (← c.peAdc.operand))
  | _, _ => .ok none

/-- `_convert_mv_map_to_pe`. -/
def convertMvMapToPe (thresholdMvByChannel : Dict Int (Option ℚ))
    (serialByChannel : Dict Int String) : Except Failure (Dict Int ℚ) := do
  match ← loadCalibrationByChannel parser s cid serialByChannel with
  | .error _ => return .empty
  | .ok calibrationByChannel =>
    let excludedChannels := s.getCalibrationExcludedChannels cid
    let outcomes ← thresholdMvByChannel.mapValsM (mvToPe calibrationByChannel excludedChannels)
    return outcomes.collect fun _ => id

/-! ## The configuration of a multiPMT -/

structure AcqInfo where
  voltage : JsonValue
  threshold : ℚ
  deriving DecidableEq, Repr

/-- The loop over the serials of the file: a serial that comes twice is refused. -/
def indexSerials : List (Int × JsonValue) → Dict JsonValue Int → Except Failure (Dict JsonValue Int)
  | [], index => .ok index
  | (analysisCh, serial) :: entries, index =>
    if !namesChannel serial then indexSerials entries index
    else if !serial.hashable then .error .raises
    else if index.contains serial then .error .returnsNone
    else indexSerials entries (index.set serial analysisCh)

/-- What the file has for the configuration: the channels by serial, and their values. -/
def readConfiguration (peThr : ℚ) :
    Except Failure (Dict JsonValue Int × Dict Int ChConfiguration) :=
  match s.detectorIds cid with
  | .error _ => .error .returnsNone
  | .ok (multipmtId, batchId) => do
    match ← (parser multipmtId batchId).configFile with
    | none => .error .returnsNone
    | some file =>
      let jsonSerialByChannel ← optional (getJsonSerialChannelMap file)
      let jsonChConfiguration ← optional (getChConfiguration file peThr)
      match jsonSerialByChannel, jsonChConfiguration with
      | some jsonSerialByChannel, some jsonChConfiguration =>
        let channelBySerial ← indexSerials jsonSerialByChannel.entries .empty
        return (channelBySerial, jsonChConfiguration)
      | _, _ => .error .returnsNone

/-- One round of the loop over the channels of the client; `none` for an excluded channel. -/
def matchChannel (channelBySerial : Dict JsonValue Int)
    (jsonChConfiguration : Dict Int ChConfiguration) (realSerial : String) : Option AcqInfo :=
  if realSerial = "" then none
  else do
    let analysisCh ← channelBySerial.get? (.text realSerial)
    let chConfig ← jsonChConfiguration.get? analysisCh
    return { voltage := chConfig.voltage, threshold := chConfig.threshold }

/-- `build_multipmt_configuration`, where `realSerialMap` is what the client answers (empty when it
does not). -/
def buildMultipmtConfiguration (realSerialMap : Dict Int String) (peThr : ℚ) :
    Except Failure (Dict Int AcqInfo) × ServerState :=
  match readConfiguration parser s cid peThr with
  | .error failure => (.error failure, s)
  | .ok (channelBySerial, jsonChConfiguration) =>
    if realSerialMap.entries = [] then (.error .returnsNone, s)
    else
      let matched := realSerialMap.mapVals fun _ => matchChannel channelBySerial jsonChConfiguration
      let acqInfo := matched.collect fun _ => id
      let s := s.setCalibrationExcludedChannels cid (matched.keysWhere (·.isNone))
      if acqInfo.entries = [] then (.error .returnsNone, s) else (.ok acqInfo, s)

end Service

end MultiDAQ.Server
