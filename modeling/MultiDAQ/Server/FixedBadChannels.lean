import MultiDAQ.Client.HvPower
import MultiDAQ.Lib.Dict
import Mathlib.Data.Rat.Defs

/-!
# The channels of a detector that are always bad

`load_fixed_bad_channels` and `set_fixed_bad_channels` of `JsonParser`
(`server/utils/json_parser.py`). The parser keeps the configuration that it has loaded, and rewrites
the file in place. The write may fail before the file is opened, which leaves the file as it was,
while the text is written, which leaves a file that cannot be read, or when the file is closed.
-/

namespace MultiDAQ.Server

open MultiDAQ.Lib
open MultiDAQ.Client.HV (sortedSet)

/-! ## The configuration -/

/-- A value of the file. -/
inductive Json
  | null
  | bool (value : Bool)
  | int (value : Int)
  | float (value : ℚ)
  | str (value : String)
  | list (items : List Json)
  | dict (entries : List (String × Json))

/-- A file that `_validate_detector_metadata` lets through: a dictionary whose detector, if it has
one, is a dictionary. -/
structure DetectorConfig where
  detector : Option (Dict String Json)
  others : Dict String Json
  others_ne : others.get? "detector" = none

namespace DetectorConfig

/-- `config_file.get("detector", {})`. -/
def detectorEntries (config : DetectorConfig) : Dict String Json := config.detector.getD .empty

def channelsJson (channels : List Int) : Json := .list (channels.map .int)

/-- The update in memory. -/
def withFixedBad (config : DetectorConfig) (channels : List Int) : DetectorConfig :=
  { config with
    detector := some (config.detectorEntries.set "fixed_bad_channels" (channelsJson channels)) }

end DetectorConfig

/-- What the file holds: a configuration, or a text that is cut short. -/
inductive ConfigText
  | config (config : DetectorConfig)
  | cutShort

/-- How the rewrite of the file ends. -/
inductive RewriteOutcome
  | written
  | notOpened
  | notWritten
  | notClosed
  deriving DecidableEq, Repr

/-- What the file holds after its rewrite. -/
def rewrite (before : ConfigText) (config : DetectorConfig) : RewriteOutcome → ConfigText
  | .notOpened => before
  | .notWritten => .cutShort
  | .written | .notClosed => .config config

/-- `config_file` and the file itself. -/
structure ConfigStore where
  configFile : Option DetectorConfig
  file : ConfigText

/-! ## The two calls

`int` is what `int` gives for a value that is not an integer; it raises for some. -/

/-- A channel between 0 and 6. -/
def checkFixedBad (channel : Int) : Option Int :=
  if channel < 0 ∨ channel ≥ 7 then none else some channel

section Load

variable (int : Json → Option Int)

def toInt : Json → Option Int
  | .int value => some value
  | value => int value

def loadFixedBadChannels (configFile : Option DetectorConfig) : Option (List Int) := do
  let config ← configFile
  match (config.detectorEntries.get? "fixed_bad_channels").getD (.list []) with
  | .list items => (items.mapM fun value => toInt int value >>= checkFixedBad).map sortedSet
  | _ => none

end Load

/-- `set_fixed_bad_channels`, for the channels as `int` gives them (`none` for a value that it
refuses). -/
def setFixedBadChannels (s : ConfigStore) (channels : List (Option Int))
    (outcome : RewriteOutcome) : Bool × ConfigStore :=
  match channels.mapM fun value => value >>= checkFixedBad with
  | none => (false, s)
  | some normalized =>
    match s.configFile with
    | none => (false, s)
    | some config =>
      let config := config.withFixedBad (sortedSet normalized)
      (outcome = .written, ⟨some config, rewrite s.file config outcome⟩)

end MultiDAQ.Server
