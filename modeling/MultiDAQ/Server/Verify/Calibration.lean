import Mathlib.Tactic.FieldSimp
import Mathlib.Tactic.Ring
import MultiDAQ.Server.Calibration

/-!
# Thresholds in photo-electrons

Three functions walk the same calibration. The configuration of a multiPMT is built from the whole
file or not at all; the conversions go channel by channel. Whenever there is a configuration, the
conversion to mV gives its thresholds and leaves out the channels that it leaves out. The conversion
to photo-electrons inverts the conversion to mV wherever slope and gain are not zero.
-/

namespace MultiDAQ.Server

open Lib
open Lib.Dict (bind_eq_ok)

/-! ## Results -/

section Results

variable {α : Type}

theorem optional_eq_some {r : Except Failure α} {a : α} :
    optional r = .ok (some a) ↔ r = .ok a := by
  cases r with
  | ok b => simp [optional]
  | error e => cases e <;> simp [optional]

theorem operand_eq_ok {v : JsonValue} {x : ℚ} : v.operand = .ok x ↔ v = .number x := by
  cases v <;> simp [JsonValue.operand]

end Results

/-! ## The serials of the file -/

section Serials

variable {entries : List (Int × JsonValue)} {index channelBySerial : Dict JsonValue Int}

/-- Where no serial comes twice, the first channel with it is the last one. -/
theorem setEach_of_indexSerials (h : indexSerials entries index = .ok channelBySerial) :
    Dict.setEach
      (fun e => if e.2.hashable then .ok (e.2, e.1) else .error Failure.raises)
      (entries.filter fun e => namesChannel e.2) index = .ok channelBySerial := by
  induction entries generalizing index with
  | nil => exact h
  | cons e entries ih =>
    obtain ⟨analysisCh, serial⟩ := e
    simp only [indexSerials] at h
    split at h
    · next hnames =>
      rw [List.filter_cons_of_neg (by simpa using hnames)]
      exact ih h
    · next hnames =>
      rw [List.filter_cons_of_pos (by simpa using hnames)]
      split at h
      · cases h
      · next hhashable =>
        split at h
        · cases h
        · simp only [Dict.setEach, show serial.hashable = true by simpa using hhashable, if_true]
          exact ih h

/-- A serial that names no channel is not in the dictionary. -/
theorem get?_indexSerials {serial : JsonValue} (hnames : namesChannel serial = false)
    (hindex : index.get? serial = none) (h : indexSerials entries index = .ok channelBySerial) :
    channelBySerial.get? serial = none := by
  induction entries generalizing index with
  | nil =>
    cases h
    exact hindex
  | cons e entries ih =>
    obtain ⟨analysisCh, serial'⟩ := e
    simp only [indexSerials] at h
    split at h
    · exact ih hindex h
    · next hnames' =>
      split at h
      · cases h
      · split at h
        · cases h
        · refine ih ?_ h
          have hne : serial ≠ serial' := by
            rintro rfl
            rw [hnames] at hnames'
            exact hnames' rfl
          rw [Dict.get?_set, if_neg hne]
          exact hindex

end Serials

/-! ## What was read -/

section Read

variable {parser : String → String → ParserResult} {s : ServerState} {cid : ClientId} {peThr : ℚ}
  {channelBySerial : Dict JsonValue Int} {config : Dict Int ChConfiguration}
  {serials : Dict Int String}

/-- The readings behind a configuration. -/
structure FileRead (parser : String → String → ParserResult) (s : ServerState) (cid : ClientId)
    (peThr : ℚ) (channelBySerial : Dict JsonValue Int) (config : Dict Int ChConfiguration)
    (thr : Dict Int (JsonValue × JsonValue)) (pe : Dict Int JsonValue) : Prop where
  read : ∃ multipmtId batchId file json, s.detectorIds cid = .ok (multipmtId, batchId) ∧
    parser multipmtId batchId = .loaded file ∧ getJsonSerialChannelMap (some file) = .ok json ∧
    indexSerials json.entries .empty = .ok channelBySerial ∧
    loadThresholdParameters (some file) = .ok thr ∧ loadPeData (some file) = .ok pe
  configured : ∃ gain, pe.mapValsM (chConfiguration thr gain peThr) = .ok config

theorem getChConfiguration_ok {file : Option CalibrationFile}
    (h : getChConfiguration file peThr = .ok config) :
    ∃ thr pe gain, loadThresholdParameters file = .ok thr ∧ loadPeData file = .ok pe ∧
      pe.mapValsM (chConfiguration thr gain peThr) = .ok config := by
  unfold getChConfiguration at h
  split at h
  · cases h
  · obtain ⟨thr, hthr, h⟩ := bind_eq_ok.1 h
    obtain ⟨pe, hpe, h⟩ := bind_eq_ok.1 h
    obtain ⟨gain, -, h⟩ := bind_eq_ok.1 h
    rcases thr with _ | thr
    · cases h
    · rcases pe with _ | pe
      · cases h
      · rcases gain with _ | gain
        · cases h
        · exact ⟨thr, pe, gain, optional_eq_some.1 hthr, optional_eq_some.1 hpe, h⟩

theorem readConfiguration_ok
    (h : readConfiguration parser s cid peThr = .ok (channelBySerial, config)) :
    ∃ thr pe, FileRead parser s cid peThr channelBySerial config thr pe := by
  unfold readConfiguration at h
  split at h
  · cases h
  · next multipmtId batchId hids =>
    obtain ⟨file, hfile, h⟩ := bind_eq_ok.1 h
    rcases file with _ | file
    · cases h
    · obtain ⟨json, hjson, h⟩ := bind_eq_ok.1 h
      obtain ⟨config', hconfig, h⟩ := bind_eq_ok.1 h
      rcases json with _ | json
      · cases h
      rcases config' with _ | config'
      · cases h
      · obtain ⟨index, hindex, h⟩ := bind_eq_ok.1 h
        cases h
        obtain ⟨thr, pe, gain, hthr, hpe, hconfigured⟩ :=
          getChConfiguration_ok (optional_eq_some.1 hconfig)
        have hloaded : parser multipmtId batchId = .loaded file := by
          cases hparser : parser multipmtId batchId with
          | raises => rw [hparser] at hfile; cases hfile
          | noFile => rw [hparser] at hfile; cases hfile
          | loaded file' =>
            rw [hparser] at hfile
            cases hfile
            rfl
        exact ⟨thr, pe, ⟨_, _, _, json, hids, hloaded, optional_eq_some.1 hjson, hindex, hthr, hpe⟩,
          gain, hconfigured⟩

variable {thr : Dict Int (JsonValue × JsonValue)} {pe : Dict Int JsonValue}

/-- The conversions find the calibration that the configuration was made from. -/
theorem FileRead.loadCalibrationByChannel
    (hread : FileRead parser s cid peThr channelBySerial config thr pe) :
    loadCalibrationByChannel parser s cid serials = .ok (.ok (serials.collect fun _ serial =>
      calibrationOf thr pe channelBySerial serial)) := by
  obtain ⟨multipmtId, batchId, file, json, hids, hfile, hjson, hindex, hthr, hpe⟩ := hread.read
  have hbySerial : analysisChannelBySerial json = .ok channelBySerial :=
    setEach_of_indexSerials hindex
  unfold Server.loadCalibrationByChannel
  simp only [hids, hfile, ParserResult.configFile]
  refine bind_eq_ok.2 ⟨some file, rfl, bind_eq_ok.2 ⟨some thr, optional_eq_some.2 hthr,
    bind_eq_ok.2 ⟨some pe, optional_eq_some.2 hpe,
      bind_eq_ok.2 ⟨some json, optional_eq_some.2 hjson, ?_⟩⟩⟩⟩
  exact bind_eq_ok.2 ⟨channelBySerial, hbySerial, rfl⟩

/-- The values of a channel that was configured. -/
theorem chConfiguration_ok {gain : Dict Int JsonValue} {ch : Int} {peAdc : JsonValue}
    {c : ChConfiguration} (h : chConfiguration thr gain peThr ch peAdc = .ok c) :
    ∃ m q g : ℚ, thr.get? ch = some (.number m, .number q) ∧ peAdc = .number g ∧ m ≠ 0 ∧
      c.threshold = (peThr * g - q) / m := by
  unfold chConfiguration at h
  split at h
  · cases h
  · cases h
  · next m q voltage hthr hgain =>
    split at h
    · cases h
    · next hm =>
      obtain ⟨g, hg, h⟩ := bind_eq_ok.1 h
      obtain ⟨q', hq, h⟩ := bind_eq_ok.1 h
      obtain ⟨m', hm', h⟩ := bind_eq_ok.1 h
      rw [operand_eq_ok] at hg hq hm'
      subst hg hq hm'
      cases h
      exact ⟨m', q', g, hthr, rfl, fun hzero => hm (by rw [hzero]), rfl⟩

/-- A calibration that both conversions can use. -/
def Calibration.numbers (m q g : ℚ) : Calibration := ⟨.number m, .number q, .number g⟩

/-- A channel is left out of the configuration exactly where no calibration matches its serial, and
has the converted threshold otherwise. -/
theorem FileRead.matchChannel_cases
    (hread : FileRead parser s cid peThr channelBySerial config thr pe) (serial : String) :
    matchChannel channelBySerial config serial = none ∧
        calibrationOf thr pe channelBySerial serial = none ∨
      ∃ info m q g, matchChannel channelBySerial config serial = some info ∧
        calibrationOf thr pe channelBySerial serial = some (.numbers m q g) ∧ m ≠ 0 ∧
        info.threshold = (peThr * g - q) / m := by
  obtain ⟨gain, hconfig⟩ := hread.configured
  have hempty : channelBySerial.get? (.text "") = none := by
    obtain ⟨_, _, _, _, -, -, -, hindex, -, -⟩ := hread.read
    exact get?_indexSerials (by decide) (Dict.get?_empty _) hindex
  unfold matchChannel calibrationOf
  by_cases hserial : serial = ""
  · subst hserial
    rw [hempty]
    exact .inl ⟨rfl, rfl⟩
  rw [if_neg hserial]
  cases hch : channelBySerial.get? (.text serial) with
  | none => exact .inl ⟨rfl, rfl⟩
  | some ch =>
    have hentry := Dict.get?_mapValsM hconfig ch
    cases hpe : pe.get? ch with
    | none =>
      have hnone : config.get? ch = none := hentry.1 hpe
      refine .inl ⟨?_, ?_⟩
      · simp only [Option.bind_eq_bind, Option.bind_some, hnone, Option.bind_none]
      · cases hthr : thr.get? ch <;> simp [hthr, hpe]
    | some peAdc =>
      obtain ⟨c, hc, hget⟩ := hentry.2 peAdc hpe
      obtain ⟨m, q, g, hthr, rfl, hm, hthreshold⟩ := chConfiguration_ok hc
      refine .inr ⟨⟨c.voltage, c.threshold⟩, m, q, g, ?_, ?_, hm, hthreshold⟩
      · simp only [Option.bind_eq_bind, Option.bind_some, hget, Option.pure_def]
      · simp only [Option.bind_eq_bind, Option.bind_some, hthr, hpe, Option.pure_def]
        rfl

end Read

/-! ## The conversions -/

section Conversions

variable {calibration : Dict Int Calibration} {ch : Int} {pe mv m q g : ℚ} {excluded : List Int}

theorem peToMv_none (pe : ℚ) (hcal : calibration.get? ch = none) :
    ∃ reason, peToMv calibration ch pe = .ok (.error reason) := by
  unfold peToMv
  rw [hcal]
  exact ⟨_, rfl⟩

theorem peToMv_numbers (hcal : calibration.get? ch = some (.numbers m q g)) (hm : m ≠ 0) :
    peToMv calibration ch pe = .ok (.ok ((pe * g - q) / m)) := by
  unfold peToMv
  rw [hcal]
  dsimp only [Calibration.numbers]
  rw [if_neg fun h => hm (JsonValue.number.inj h)]
  rfl

/-- What the conversion to mV went through for a channel with a slope. -/
theorem peToMv_ok {outcome : Except Reason ℚ} {c : Calibration}
    (h : peToMv calibration ch pe = .ok outcome) (hcal : calibration.get? ch = some c)
    (hslope : c.m ≠ .number 0) :
    ∃ m q g, c = .numbers m q g ∧ outcome = .ok ((pe * g - q) / m) := by
  unfold peToMv at h
  rw [hcal] at h
  dsimp only at h
  rw [if_neg hslope] at h
  obtain ⟨g, hg, h⟩ := bind_eq_ok.1 h
  obtain ⟨q, hq, h⟩ := bind_eq_ok.1 h
  obtain ⟨m, hm, h⟩ := bind_eq_ok.1 h
  rw [operand_eq_ok] at hg hq hm
  obtain ⟨m', q', g'⟩ := c
  dsimp only at hg hq hm
  subst hg hq hm
  cases h
  exact ⟨m, q, g, rfl, rfl⟩

/-- A channel that has a threshold in mV has a calibration with numbers and a slope. -/
theorem calibration_of_peToMv (h : peToMv calibration ch pe = .ok (.ok mv)) :
    ∃ m q g, calibration.get? ch = some (.numbers m q g) ∧ m ≠ 0 := by
  cases hcal : calibration.get? ch with
  | none =>
    obtain ⟨reason, hreason⟩ := peToMv_none pe hcal
    rw [h] at hreason
    cases hreason
  | some c =>
    by_cases hm : c.m = .number 0
    · unfold peToMv at h
      rw [hcal] at h
      dsimp only at h
      rw [if_pos hm] at h
      cases h
    · obtain ⟨m, q, g, rfl, -⟩ := peToMv_ok h hcal hm
      exact ⟨m, q, g, rfl, fun hzero => hm (by rw [hzero]; rfl)⟩

theorem mvToPe_none (hcal : calibration.get? ch = none) (mv : Option ℚ) :
    mvToPe calibration excluded ch mv = .ok none := by
  unfold mvToPe
  rw [hcal]
  cases mv <;> rfl

theorem mvToPe_numbers (hcal : calibration.get? ch = some (.numbers m q g)) :
    mvToPe calibration excluded ch (some mv) =
      .ok (if ch ∈ excluded ∨ g = 0 then none else some ((m * mv + q) / g)) := by
  unfold mvToPe
  rw [hcal]
  dsimp only [Calibration.numbers]
  by_cases hex : ch ∈ excluded
  · rw [if_pos hex, if_pos (.inl hex)]
  · rw [if_neg hex]
    by_cases hg : g = 0
    · rw [if_pos (by rw [hg]), if_pos (.inr hg)]
    · rw [if_neg fun h => hg (JsonValue.number.inj h), if_neg (by rintro (h | h) <;> contradiction)]
      rfl

/-- What the conversion to photo-electrons went through for a channel that it does not skip. -/
theorem mvToPe_ok {outcome : Option ℚ} {c : Calibration}
    (h : mvToPe calibration excluded ch (some mv) = .ok outcome)
    (hcal : calibration.get? ch = some c) (hex : ch ∉ excluded) (hgain : c.peAdc ≠ .number 0) :
    ∃ m q g, c = .numbers m q g ∧ outcome = some ((m * mv + q) / g) := by
  unfold mvToPe at h
  rw [hcal] at h
  dsimp only at h
  rw [if_neg hex, if_neg hgain] at h
  obtain ⟨m, hm, h⟩ := bind_eq_ok.1 h
  obtain ⟨q, hq, h⟩ := bind_eq_ok.1 h
  obtain ⟨g, hg, h⟩ := bind_eq_ok.1 h
  rw [operand_eq_ok] at hg hq hm
  obtain ⟨m', q', g'⟩ := c
  dsimp only at hg hq hm
  subst hg hq hm
  cases h
  exact ⟨m, q, g, rfl, rfl⟩

/-- A channel that has a threshold in photo-electrons has a calibration with numbers. -/
theorem calibration_of_mvToPe {mv : Option ℚ}
    (h : mvToPe calibration excluded ch mv = .ok (some pe)) :
    ∃ m q g, calibration.get? ch = some (.numbers m q g) := by
  cases hcal : calibration.get? ch with
  | none =>
    rw [mvToPe_none hcal] at h
    cases h
  | some c =>
    cases mv with
    | none =>
      unfold mvToPe at h
      cases h
    | some mv =>
      by_cases hex : ch ∈ excluded
      · unfold mvToPe at h
        rw [hcal] at h
        dsimp only at h
        rw [if_pos hex] at h
        cases h
      · by_cases hgain : c.peAdc = .number 0
        · unfold mvToPe at h
          rw [hcal] at h
          dsimp only at h
          rw [if_neg hex, if_pos hgain] at h
          cases h
        · obtain ⟨m, q, g, rfl, -⟩ := mvToPe_ok h hcal hex hgain
          exact ⟨m, q, g, rfl⟩

theorem peToMv_total (hcal : calibration.get? ch = some (.numbers m q g)) :
    ∃ outcome, peToMv calibration ch pe = .ok outcome := by
  by_cases hm : m = 0
  · subst hm
    unfold peToMv
    rw [hcal]
    exact ⟨_, rfl⟩
  · exact ⟨_, peToMv_numbers hcal hm⟩

theorem mvToPe_total (hcal : calibration.get? ch = some (.numbers m q g)) (mv : Option ℚ) :
    ∃ outcome, mvToPe calibration excluded ch mv = .ok outcome := by
  cases mv with
  | none =>
    unfold mvToPe
    exact ⟨_, rfl⟩
  | some mv => exact ⟨_, mvToPe_numbers hcal⟩

end Conversions

/-! ## A whole conversion -/

section Whole

variable {parser : String → String → ParserResult} {s : ServerState} {cid : ClientId}
  {serials : Dict Int String} {calibration : Dict Int Calibration}

theorem convertPeMapToMv_ok {pes mv : Dict Int ℚ} {left : Dict Int Reason}
    (hload : loadCalibrationByChannel parser s cid serials = .ok (.ok calibration)) :
    convertPeMapToMv parser s cid pes serials = .ok (mv, left) ↔
      ∃ outcomes, pes.mapValsM (peToMv calibration) = .ok outcomes ∧
        mv = outcomes.collect (fun _ => valueOf) ∧ left = outcomes.collect fun _ => reasonOf := by
  unfold convertPeMapToMv
  rw [hload]
  refine bind_eq_ok.trans ?_
  constructor
  · rintro ⟨cal, hcal, h⟩
    cases hcal
    obtain ⟨outcomes, houtcomes, h⟩ := bind_eq_ok.1 h
    cases h
    exact ⟨outcomes, houtcomes, rfl, rfl⟩
  · rintro ⟨outcomes, houtcomes, rfl, rfl⟩
    exact ⟨_, rfl, bind_eq_ok.2 ⟨outcomes, houtcomes, rfl⟩⟩

theorem convertMvMapToPe_ok {mvs : Dict Int (Option ℚ)} {pes : Dict Int ℚ}
    (hload : loadCalibrationByChannel parser s cid serials = .ok (.ok calibration)) :
    convertMvMapToPe parser s cid mvs serials = .ok pes ↔
      ∃ outcomes,
        mvs.mapValsM (mvToPe calibration (s.getCalibrationExcludedChannels cid)) = .ok outcomes ∧
          pes = outcomes.collect fun _ => id := by
  unfold convertMvMapToPe
  rw [hload]
  refine bind_eq_ok.trans ?_
  constructor
  · rintro ⟨cal, hcal, h⟩
    cases hcal
    obtain ⟨outcomes, houtcomes, h⟩ := bind_eq_ok.1 h
    cases h
    exact ⟨outcomes, houtcomes, rfl⟩
  · rintro ⟨outcomes, houtcomes, rfl⟩
    exact ⟨_, rfl, bind_eq_ok.2 ⟨outcomes, houtcomes, rfl⟩⟩

/-- The detector of a client does not depend on the channels that were stored as excluded. -/
theorem detectorIds_setCalibrationExcludedChannels (channels : List Int) :
    (s.setCalibrationExcludedChannels cid channels).detectorIds cid = s.detectorIds cid := by
  unfold ServerState.detectorIds ServerState.getConfigurationIdentity
    ServerState.setCalibrationExcludedChannels
  simp only [Dict.get?_modify, if_true]
  cases s.clients.get? cid <;> rfl

theorem loadCalibrationByChannel_stored (channels : List Int) :
    loadCalibrationByChannel parser (s.setCalibrationExcludedChannels cid channels) cid serials =
      loadCalibrationByChannel parser s cid serials := by
  unfold loadCalibrationByChannel
  rw [detectorIds_setCalibrationExcludedChannels]

/-- A client whose detector is known gets the channels stored. -/
theorem getCalibrationExcludedChannels_stored {ids : String × String}
    (hids : s.detectorIds cid = .ok ids) (channels : List Int) :
    (s.setCalibrationExcludedChannels cid channels).getCalibrationExcludedChannels cid =
      channels := by
  unfold ServerState.getCalibrationExcludedChannels ServerState.setCalibrationExcludedChannels
  simp only [Dict.get?_modify, if_true]
  cases hclient : s.clients.get? cid with
  | none =>
    simp only [ServerState.detectorIds, ServerState.getConfigurationIdentity, hclient] at hids
    cases hids
  | some r => rfl

end Whole

/-! ## The three agree -/

section Agreement

variable (parser : String → String → ParserResult) (s s' : ServerState) (cid : ClientId)
  (serials : Dict Int String)

/-- What the conversions do when there is a configuration. -/
structure Agrees (peThr : ℚ) (acqInfo : Dict Int AcqInfo) : Prop where
  /-- The conversion to mV gives the thresholds of the configuration to the channels that have
  one there, and leaves the others out. -/
  toMv : ∀ peByChannel : Dict Int ℚ, ∃ mvByChannel left,
    convertPeMapToMv parser s cid peByChannel serials = .ok (mvByChannel, left) ∧
      (∀ ch, peByChannel.get? ch = some peThr →
        mvByChannel.get? ch = (acqInfo.get? ch).map (·.threshold)) ∧
      ∀ ch, peByChannel.contains ch = true →
        (left.contains ch = true ↔ acqInfo.get? ch = none)
  /-- The channels stored as excluded are those of the client that are left out. -/
  stored : ∀ ch, ch ∈ s'.getCalibrationExcludedChannels cid ↔
    serials.contains ch = true ∧ acqInfo.get? ch = none
  /-- The conversion to photo-electrons leaves them out as well. -/
  toPe : ∀ mvByChannel : Dict Int (Option ℚ), ∃ peByChannel,
    convertMvMapToPe parser s' cid mvByChannel serials = .ok peByChannel ∧
      ∀ ch, acqInfo.get? ch = none → peByChannel.get? ch = none

/-- The channel has a calibration whose slope and gain are not zero, and is not excluded. -/
def Invertible (ch : Int) : Prop :=
  ∃ calibration c, loadCalibrationByChannel parser s cid serials = .ok (.ok calibration) ∧
    calibration.get? ch = some c ∧ c.m ≠ .number 0 ∧ c.peAdc ≠ .number 0 ∧
    ch ∉ s.getCalibrationExcludedChannels cid

/-- The conversions are inverse to each other. -/
structure Inverse : Prop where
  toPe : ∀ {peByChannel mvByChannel left},
    convertPeMapToMv parser s cid peByChannel serials = .ok (mvByChannel, left) →
      ∃ back, convertMvMapToPe parser s cid (mvByChannel.mapVals fun _ => some) serials = .ok back ∧
        ∀ ch, Invertible parser s cid serials ch → back.get? ch = peByChannel.get? ch
  toMv : ∀ {mvByChannel peByChannel},
    convertMvMapToPe parser s cid mvByChannel serials = .ok peByChannel →
      ∃ back left, convertPeMapToMv parser s cid peByChannel serials = .ok (back, left) ∧
        ∀ ch, Invertible parser s cid serials ch → back.get? ch = (mvByChannel.get? ch).join

variable {parser s s' cid serials}

section Configured

variable {peThr : ℚ} {acqInfo : Dict Int AcqInfo}

/-- What a configuration comes from: the calibrations of its channels. -/
theorem buildMultipmtConfiguration_ok
    (h : buildMultipmtConfiguration parser s cid serials peThr = (.ok acqInfo, s')) :
    ∃ calibration channels, s' = s.setCalibrationExcludedChannels cid channels ∧
      (∃ ids, s.detectorIds cid = .ok ids) ∧
      loadCalibrationByChannel parser s cid serials = .ok (.ok calibration) ∧
      (∀ ch, ch ∈ channels ↔ serials.contains ch = true ∧ acqInfo.get? ch = none) ∧
      ∀ ch, acqInfo.get? ch = none ∧ calibration.get? ch = none ∨
        ∃ info m q g, acqInfo.get? ch = some info ∧ calibration.get? ch = some (.numbers m q g) ∧
          m ≠ 0 ∧ info.threshold = (peThr * g - q) / m := by
  unfold buildMultipmtConfiguration at h
  split at h
  · cases h
  · next channelBySerial config hconfig =>
    obtain ⟨thr, pe, hread⟩ := readConfiguration_ok hconfig
    split at h
    · cases h
    · dsimp only at h
      split at h
      · cases h
      · cases h
        refine ⟨_, _, rfl, ?_, hread.loadCalibrationByChannel, ?_, ?_⟩
        · obtain ⟨_, _, _, _, hids, -⟩ := hread.read
          exact ⟨_, hids⟩
        · intro ch
          rw [Dict.mem_keysWhere, Dict.get?_collect, Dict.get?_mapVals, Dict.contains]
          cases serials.get? ch with
          | none => simp
          | some serial => cases hmatch : matchChannel channelBySerial config serial <;> simp [hmatch]
        · intro ch
          rw [Dict.get?_collect, Dict.get?_mapVals, Dict.get?_collect]
          cases serials.get? ch with
          | none => exact .inl ⟨rfl, rfl⟩
          | some serial => exact hread.matchChannel_cases serial

theorem agrees_of_build
    (h : buildMultipmtConfiguration parser s cid serials peThr = (.ok acqInfo, s')) :
    Agrees parser s s' cid serials peThr acqInfo := by
  obtain ⟨calibration, channels, rfl, ⟨ids, hids⟩, hload, hchannels, hcases⟩ :=
    buildMultipmtConfiguration_ok h
  refine ⟨fun pes => ?_, fun ch => ?_, fun mvs => ?_⟩
  · have hround : ∀ ch pe, ∃ outcome, peToMv calibration ch pe = .ok outcome := by
      intro ch pe
      rcases hcases ch with ⟨-, hcal⟩ | ⟨info, m, q, g, -, hcal, -, -⟩
      · obtain ⟨reason, hreason⟩ := peToMv_none pe hcal
        exact ⟨_, hreason⟩
      · exact peToMv_total hcal
    obtain ⟨outcomes, houtcomes⟩ := Dict.mapValsM_ok fun ch pe (_ : pes.get? ch = some pe) =>
      hround ch pe
    refine ⟨_, _, (convertPeMapToMv_ok hload).2 ⟨outcomes, houtcomes, rfl, rfl⟩,
      fun ch hch => ?_, fun ch hch => ?_⟩
    · obtain ⟨outcome, hpe, hget⟩ := (Dict.get?_mapValsM houtcomes ch).2 peThr hch
      rw [Dict.get?_collect, hget]
      rcases hcases ch with ⟨hinfo, hcal⟩ | ⟨info, m, q, g, hinfo, hcal, hm, hthreshold⟩
      · obtain ⟨reason, hreason⟩ := peToMv_none peThr hcal
        rw [hreason] at hpe
        cases hpe
        rw [hinfo]
        rfl
      · rw [peToMv_numbers hcal hm] at hpe
        cases hpe
        rw [hinfo, Option.map_some, hthreshold]
        rfl
    · obtain ⟨pe, hch⟩ := Option.isSome_iff_exists.1 hch
      obtain ⟨outcome, hpe, hget⟩ := (Dict.get?_mapValsM houtcomes ch).2 pe hch
      rw [Dict.contains, Dict.get?_collect, hget]
      rcases hcases ch with ⟨hinfo, hcal⟩ | ⟨info, m, q, g, hinfo, hcal, hm, -⟩
      · obtain ⟨reason, hreason⟩ := peToMv_none pe hcal
        rw [hreason] at hpe
        cases hpe
        exact ⟨fun _ => hinfo, fun _ => rfl⟩
      · rw [peToMv_numbers hcal hm] at hpe
        cases hpe
        rw [hinfo]
        exact ⟨nofun, nofun⟩
  · rw [getCalibrationExcludedChannels_stored hids]
    exact hchannels ch
  · have hload' : loadCalibrationByChannel parser (s.setCalibrationExcludedChannels cid channels) cid
        serials = .ok (.ok calibration) := by
      rw [loadCalibrationByChannel_stored, hload]
    have hround : ∀ ch mv, ∃ outcome, mvToPe calibration
        ((s.setCalibrationExcludedChannels cid channels).getCalibrationExcludedChannels cid) ch mv =
          .ok outcome := by
      intro ch mv
      rcases hcases ch with ⟨-, hcal⟩ | ⟨info, m, q, g, -, hcal, -, -⟩
      · exact ⟨_, mvToPe_none hcal mv⟩
      · exact mvToPe_total hcal mv
    obtain ⟨outcomes, houtcomes⟩ := Dict.mapValsM_ok fun ch mv (_ : mvs.get? ch = some mv) =>
      hround ch mv
    refine ⟨_, (convertMvMapToPe_ok hload').2 ⟨outcomes, houtcomes, rfl⟩, fun ch hinfo => ?_⟩
    have hcal : calibration.get? ch = none := by
      rcases hcases ch with ⟨-, hcal⟩ | ⟨info, m, q, g, hsome, -, -, -⟩
      · exact hcal
      · rw [hinfo] at hsome
        cases hsome
    have hentry := Dict.get?_mapValsM houtcomes ch
    rw [Dict.get?_collect]
    cases hmv : mvs.get? ch with
    | none => rw [hentry.1 hmv, Option.bind_none]
    | some mv =>
      obtain ⟨outcome, houtcome, hget⟩ := hentry.2 mv hmv
      rw [mvToPe_none hcal] at houtcome
      cases houtcome
      rw [hget]
      rfl

end Configured

/-- Thresholds in mV, converted from photo-electrons, go back to them. -/
theorem back_toPe {pes mv : Dict Int ℚ} {left : Dict Int Reason}
    (h : convertPeMapToMv parser s cid pes serials = .ok (mv, left)) :
    ∃ back, convertMvMapToPe parser s cid (mv.mapVals fun _ => some) serials = .ok back ∧
      ∀ ch, Invertible parser s cid serials ch → back.get? ch = pes.get? ch := by
  cases hload : loadCalibrationByChannel parser s cid serials with
  | error failure =>
    unfold convertPeMapToMv at h
    rw [hload] at h
    cases h
  | ok result =>
    cases result with
    | error reason =>
      refine ⟨.empty, ?_, fun ch ⟨_, _, hcal, _⟩ => ?_⟩
      · unfold convertMvMapToPe
        rw [hload]
        rfl
      · rw [hload] at hcal
        cases hcal
    | ok calibration =>
      obtain ⟨outcomes, houtcomes, rfl, rfl⟩ := (convertPeMapToMv_ok hload).1 h
      have hback : ∀ ch mv, (Dict.mapVals (outcomes.collect fun _ => valueOf) fun _ => some).get? ch =
          some mv → ∃ o, mvToPe calibration (s.getCalibrationExcludedChannels cid) ch mv = .ok o := by
        intro ch mv hmv
        rw [Dict.get?_mapVals, Dict.get?_collect] at hmv
        have hentry := Dict.get?_mapValsM houtcomes ch
        cases hpe : pes.get? ch with
        | none =>
          rw [hentry.1 hpe] at hmv
          cases hmv
        | some pe =>
          obtain ⟨outcome, houtcome, hget⟩ := hentry.2 pe hpe
          rw [hget] at hmv
          cases outcome with
          | error reason => cases hmv
          | ok value =>
            obtain ⟨m, q, g, hcal, -⟩ := calibration_of_peToMv houtcome
            exact mvToPe_total hcal mv
      obtain ⟨back, hrun⟩ := Dict.mapValsM_ok hback
      refine ⟨_, (convertMvMapToPe_ok hload).2 ⟨back, hrun, rfl⟩, ?_⟩
      rintro ch ⟨_, c, hcal, hc, hm, hg, hex⟩
      rw [hload] at hcal
      cases hcal
      have hentry := Dict.get?_mapValsM houtcomes ch
      have hreturn := Dict.get?_mapValsM hrun ch
      rw [Dict.get?_mapVals, Dict.get?_collect] at hreturn
      rw [Dict.get?_collect]
      cases hpe : pes.get? ch with
      | none =>
        rw [hentry.1 hpe] at hreturn
        rw [hreturn.1 rfl]
        rfl
      | some pe =>
        obtain ⟨outcome, houtcome, hget⟩ := hentry.2 pe hpe
        obtain ⟨m, q, g, rfl, rfl⟩ := peToMv_ok houtcome hc hm
        rw [hget] at hreturn
        obtain ⟨o, ho, hgetBack⟩ := hreturn.2 _ rfl
        rw [mvToPe_numbers hc, if_neg] at ho
        · cases ho
          rw [hgetBack]
          have hm' : m ≠ 0 := fun hzero => hm (by rw [hzero]; rfl)
          have hg' : g ≠ 0 := fun hzero => hg (by rw [hzero]; rfl)
          simp only [Option.bind_some, id]
          congr 1
          field_simp
          ring
        · rintro (hmem | rfl)
          · exact hex hmem
          · exact hg rfl

/-- Thresholds in photo-electrons, converted from mV, go back to them. -/
theorem back_toMv {mvs : Dict Int (Option ℚ)} {pes : Dict Int ℚ}
    (h : convertMvMapToPe parser s cid mvs serials = .ok pes) :
    ∃ back left, convertPeMapToMv parser s cid pes serials = .ok (back, left) ∧
      ∀ ch, Invertible parser s cid serials ch → back.get? ch = (mvs.get? ch).join := by
  cases hload : loadCalibrationByChannel parser s cid serials with
  | error failure =>
    unfold convertMvMapToPe at h
    rw [hload] at h
    cases h
  | ok result =>
    cases result with
    | error reason =>
      refine ⟨.empty, pes.mapVals fun _ _ => reason, ?_, fun ch ⟨_, _, hcal, _⟩ => ?_⟩
      · unfold convertPeMapToMv
        rw [hload]
        rfl
      · rw [hload] at hcal
        cases hcal
    | ok calibration =>
      obtain ⟨outcomes, houtcomes, rfl⟩ := (convertMvMapToPe_ok hload).1 h
      have hback : ∀ ch pe, (outcomes.collect fun _ => id).get? ch = some pe →
          ∃ o, peToMv calibration ch pe = .ok o := by
        intro ch pe hpe
        rw [Dict.get?_collect] at hpe
        have hentry := Dict.get?_mapValsM houtcomes ch
        cases hmv : mvs.get? ch with
        | none =>
          rw [hentry.1 hmv] at hpe
          cases hpe
        | some mv =>
          obtain ⟨outcome, houtcome, hget⟩ := hentry.2 mv hmv
          rw [hget] at hpe
          cases hpe
          obtain ⟨m, q, g, hcal⟩ := calibration_of_mvToPe houtcome
          exact peToMv_total hcal
      obtain ⟨back, hrun⟩ := Dict.mapValsM_ok hback
      refine ⟨_, _, (convertPeMapToMv_ok hload).2 ⟨back, hrun, rfl, rfl⟩, ?_⟩
      rintro ch ⟨_, c, hcal, hc, hm, hg, hex⟩
      rw [hload] at hcal
      cases hcal
      have hentry := Dict.get?_mapValsM houtcomes ch
      have hreturn := Dict.get?_mapValsM hrun ch
      rw [Dict.get?_collect] at hreturn ⊢
      cases hmv : mvs.get? ch with
      | none =>
        rw [hentry.1 hmv] at hreturn
        rw [hreturn.1 rfl]
        rfl
      | some mv =>
        obtain ⟨outcome, houtcome, hget⟩ := hentry.2 mv hmv
        rw [hget] at hreturn
        cases mv with
        | none =>
          unfold mvToPe at houtcome
          cases houtcome
          rw [hreturn.1 rfl]
          rfl
        | some mv =>
          obtain ⟨m, q, g, rfl, rfl⟩ := mvToPe_ok houtcome hc hex hg
          have hm' : m ≠ 0 := fun hzero => hm (by rw [hzero]; rfl)
          have hg' : g ≠ 0 := fun hzero => hg (by rw [hzero]; rfl)
          obtain ⟨o, ho, hgetBack⟩ := hreturn.2 _ rfl
          rw [peToMv_numbers hc hm'] at ho
          cases ho
          rw [hgetBack]
          simp only [Option.bind_some, valueOf, Option.join_some]
          congr 1
          field_simp
          ring

/-- Whenever a configuration is built, the conversions agree with it on every channel, and they are
inverse to each other on every channel that is not excluded and has a slope and a gain. -/
theorem conversions_agree (parser : String → String → ParserResult) (cid : ClientId)
    (serials : Dict Int String) :
    (∀ s s' peThr acqInfo,
      buildMultipmtConfiguration parser s cid serials peThr = (.ok acqInfo, s') →
        Agrees parser s s' cid serials peThr acqInfo) ∧
      ∀ s, Inverse parser s cid serials :=
  ⟨fun _ _ _ _ => agrees_of_build, fun _ => ⟨back_toPe, back_toMv⟩⟩

end Agreement

/-! ## A file with two channels -/

section TwoChannels

private def client : ClientId := [65]

/-- The state with one client, whose detector was chosen. -/
private def chosen : ServerState :=
  { ServerState.init with
    clients := .set .empty client
      { connectedAt := 0, configurationIdentity := some ⟨"mpmt10", "batch_1"⟩ } }

/-- The file of that detector, for the slope of its second channel. -/
private def twoChannels (slope : ℚ) (multipmtId batchId : String) : ParserResult :=
  if multipmtId = "mpmt10" ∧ batchId = "batch_1" then
    .loaded
      { pe := .data [(some 1, .fields (.number 20)), (some 2, .fields (.number 30))]
        gain := .data [(some 1, .fields (.number 1100)), (some 2, .fields (.number 1200))]
        threshold := .data [(some 1, .fields (.number 2, .number 10)),
          (some 2, .fields (.number slope, .number 0))]
        serials := .data [(some 1, .text "A1"), (some 2, .text "A2")] }
  else .noFile

private def bothSerials : Dict Int String := .set (.set .empty 0 "A1") 1 "A2"

theorem conversions_agree_twoChannels :
    (buildMultipmtConfiguration (twoChannels 3) chosen client bothSerials 1).1.toOption.map
        (fun acqInfo => acqInfo.entries.map fun e => (e.1, e.2.threshold)) =
        some [(0, 5), (1, 10)] ∧
      (∀ s s' peThr acqInfo,
        buildMultipmtConfiguration (twoChannels 3) s client bothSerials peThr = (.ok acqInfo, s') →
          Agrees (twoChannels 3) s s' client bothSerials peThr acqInfo) ∧
      ∀ s, Inverse (twoChannels 3) s client bothSerials :=
  ⟨by decide +kernel, conversions_agree (twoChannels 3) client bothSerials⟩

/-- One channel without a slope keeps the whole configuration from being built, while the other is
converted. -/
theorem configuration_refused :
    ¬∀ (parser : String → String → ParserResult) (s : ServerState) (cid : ClientId)
      (serials : Dict Int String) (peThr : ℚ) (peByChannel mvByChannel : Dict Int ℚ)
      (left : Dict Int Reason) (ch : Int) (mv : ℚ),
      convertPeMapToMv parser s cid peByChannel serials = .ok (mvByChannel, left) →
        peByChannel.get? ch = some peThr → mvByChannel.get? ch = some mv →
          ∃ acqInfo s', buildMultipmtConfiguration parser s cid serials peThr = (.ok acqInfo, s') ∧
            (acqInfo.get? ch).map (·.threshold) = some mv := by
  intro h
  have hconvert : convertPeMapToMv (twoChannels 0) chosen client (.set .empty 0 1) bothSerials =
      .ok (.set .empty 0 5, .empty) := by
    decide +kernel
  have hbuild : (buildMultipmtConfiguration (twoChannels 0) chosen client bothSerials 1).1 =
      .error .returnsNone := by
    decide +kernel
  obtain ⟨acqInfo, s', hbuilt, -⟩ :=
    h _ _ _ _ 1 _ _ _ 0 5 hconvert (by decide +kernel) (by decide +kernel)
  rw [hbuilt] at hbuild
  cases hbuild

end TwoChannels

end MultiDAQ.Server
