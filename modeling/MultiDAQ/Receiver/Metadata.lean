import Mathlib.Algebra.Ring.Int.Defs
import MultiDAQ.Lib.Dict
import MultiDAQ.Lib.Tokens
import MultiDAQ.Receiver.Event

/-!
# Metadata

The metadata of an acquisition on its way from the server to a worker: `_serialize_metadata` of
`receiver_service.py` makes a text of it, the last frame of an OPEN carries this text in UTF-8, and
`control_listener` and `populate_meta_struct` of `evreceiver.c` read a `meta_data_t` from it.
-/

namespace MultiDAQ.Receiver

open MultiDAQ.Lib

/-! ## `receiver_service.py` -/

/-- `str`. -/
abbrev Text := List Char

/-- An integer, or another value by what `str` makes of it, of a `bytes` after decoding. -/
inductive MetaValue
  | int (i : Int)
  | other (text : Text)
  deriving DecidableEq, Repr

def intText (i : Int) : Text :=
  if i < 0 then '-' :: decimal i.natAbs else decimal i.natAbs

/-- `str(value)`. -/
def MetaValue.str : MetaValue → Text
  | .int i => intText i
  | .other text => text

abbrev Metadata := Dict Text MetaValue

/-- The errors of `_serialize_metadata`, with the key they name. -/
inductive SerializeError
  | invalidKey (key : Text)
  | semicolonInValue (key : Text)
  | equalsInValue (key : Text)
  deriving DecidableEq, Repr

/-- The field of one entry. -/
def serializeField (key : Text) (value : Text) : Except SerializeError Text :=
  if ';' ∈ key ∨ '=' ∈ key then .error (.invalidKey key)
  else if ';' ∈ value then .error (.semicolonInValue key)
  else if '=' ∈ value then .error (.equalsInValue key)
  else .ok (key ++ '=' :: value)

/-- `_serialize_metadata`. -/
def serializeMetadata (metadata : Metadata) : Except SerializeError Text := do
  let fields ← metadata.entries.mapM fun e => serializeField e.1 e.2.str
  return joinWith ';' fields

/-- `encode("utf-8")`. -/
def utf8 (text : Text) : Bytes := text.flatMap String.utf8EncodeChar

/-! ## `meta_data_t` -/

/-- The fields of `meta_data_t`. -/
inductive MetaField
  | version
  | timestampRaw
  | timestampUtc
  | acquisitionMode
  | acquisitionType
  | statusReg0
  | statusReg1
  | statusReg10
  | statusReg15
  | statusReg16
  | statusReg18
  | statusReg19
  | statusReg31
  | statusReg39
  | serialPmt (ch : Fin 7)
  | clientId
  | acqTypeParam
  | multipmtId
  | batchId
  | fixedBadMask
  | runId
  | softwareVersion
  | voltage (ch : Fin 7)
  | thresholdMv (ch : Fin 7)
  | thresholdPe (ch : Fin 7)
  | hvChannelState (ch : Fin 7)
  | hvPowerState (ch : Fin 7)
  deriving DecidableEq, Repr

inductive MetaType
  /-- `char[size]`. -/
  | chars (size : Nat)
  | int32
  | uint32
  | int64
  | float
  deriving DecidableEq, Repr

namespace MetaField

def type : MetaField → MetaType
  | version => .uint32
  | timestampRaw => .int64
  | acquisitionMode | hvChannelState _ | hvPowerState _ => .chars 16
  | runId => .chars 64
  | timestampUtc | acquisitionType | acqTypeParam | clientId | multipmtId | batchId
  | softwareVersion | serialPmt _ => .chars 32
  | thresholdPe _ => .float
  | statusReg0 | statusReg1 | statusReg10 | statusReg15 | statusReg16 | statusReg18 | statusReg19
  | statusReg31 | statusReg39 | fixedBadMask | voltage _ | thresholdMv _ => .int32

end MetaField

/-- `F` is the type of a `float`. -/
def MetaType.Value (F : Type) : MetaType → Type
  | .chars _ => Bytes
  | .int32 | .uint32 | .int64 => Int
  | .float => F

/-- `meta_data_t`. -/
abbrev MetaData (F : Type) := (f : MetaField) → f.type.Value F

/-! ## `populate_meta_struct` -/

/-- `isspace`. -/
def isSpace (b : UInt8) : Bool := b = 32 || (9 ≤ b && b ≤ 13)

def isDigit (b : UInt8) : Bool := 48 ≤ b && b ≤ 57

/-- The number that the digits in front say. -/
def leadingNat (s : Bytes) : Nat :=
  (s.takeWhile isDigit).foldl (fun n b => 10 * n + (b.toNat - 48)) 0

/-- `atoi`, and `atol`, of a number in the range of the type. -/
def atoi (s : Bytes) : Int :=
  match s.dropWhile isSpace with
  | [] => 0
  | b :: s =>
    if b = 45 then -(leadingNat s : Int)
    else if b = 43 then leadingNat s
    else leadingNat (b :: s)

section Populate

-- `atof` is what the C library makes of a text, and `pe` the value of `-1.0f`
variable {F : Type} (atof : Bytes → F) (pe : F)

/-- `reset_meta_struct`. -/
def resetMetaStruct : MetaData F
  | .version | .timestampRaw | .statusReg0 | .statusReg1 | .statusReg10 | .statusReg15
  | .statusReg16 | .statusReg18 | .statusReg19 | .statusReg31 | .statusReg39 => (0 : Int)
  | .timestampUtc | .acquisitionMode | .acquisitionType | .serialPmt _ | .clientId | .acqTypeParam
  | .multipmtId | .batchId | .runId | .softwareVersion | .hvChannelState _ | .hvPowerState _ =>
    ([] : Bytes)
  | .fixedBadMask | .voltage _ | .thresholdMv _ => (-1 : Int)
  | .thresholdPe _ => pe

/-- The value of a type that is read from a text; `strncpy` copies what there is room for. -/
def MetaType.parse (value : Bytes) : (t : MetaType) → t.Value F
  | .chars size => value.take (size - 1)
  | .int32 | .int64 => atoi value
  | .uint32 => atoi value % 2 ^ 32
  | .float => atof value

/-- A branch on `strcmp(key, name) == 0`. -/
def literal (name : String) (f : MetaField) (key : Bytes) : Option (Option MetaField) :=
  if key = asciiBytes name.toList then some (some f) else none

/-- `ch = key[n] - '0'`, when it is a channel. -/
def channelAt (n : Nat) (key : Bytes) : Option (Fin 7) :=
  let digit := (key.getD n 0).toNat
  if h : 48 ≤ digit ∧ digit - 48 < 7 then some ⟨digit - 48, h.2⟩ else none

/-- A branch on `strncmp(key, name, n) == 0 && strlen(key) == n + 1`. -/
def channels (name : String) (f : Fin 7 → MetaField) (key : Bytes) : Option (Option MetaField) :=
  let pre := asciiBytes name.toList
  if key.take pre.length = pre ∧ key.length = pre.length + 1 then
    some ((channelAt pre.length key).map f)
  else none

/-- The branches of `populate_meta_struct`, in order. -/
def branches : List (Bytes → Option (Option MetaField)) := [
  literal "version" .version,
  literal "timestamp_raw" .timestampRaw,
  literal "timestamp_utc" .timestampUtc,
  literal "acquisition_mode" .acquisitionMode,
  literal "acquisition_type" .acquisitionType,
  literal "status_reg0" .statusReg0,
  literal "status_reg1" .statusReg1,
  literal "status_reg10" .statusReg10,
  literal "status_reg15" .statusReg15,
  literal "status_reg16" .statusReg16,
  literal "status_reg18" .statusReg18,
  literal "status_reg19" .statusReg19,
  literal "status_reg31" .statusReg31,
  literal "status_reg39" .statusReg39,
  channels "serial_pmt" .serialPmt,
  literal "client_id" .clientId,
  literal "acq_type_param" .acqTypeParam,
  literal "multipmt_id" .multipmtId,
  literal "batch_id" .batchId,
  literal "fixed_bad_mask" .fixedBadMask,
  literal "run_id" .runId,
  literal "software_version" .softwareVersion,
  channels "voltage_ch" .voltage,
  channels "threshold_mv_ch" .thresholdMv,
  channels "threshold_pe_ch" .thresholdPe,
  channels "hv_channel_state_ch" .hvChannelState,
  channels "hv_power_state_ch" .hvPowerState]

/-- The field that a key sets: the first branch whose condition holds says which, if it does. -/
def fieldOf (key : Bytes) : Option MetaField := (branches.findSome? (· key)).join

/-- The key and the value of a token. -/
def keyValue (token : Bytes) : Option (Bytes × Bytes) :=
  match strtok 61 token with
  | none => none
  | some (key, rest) =>
    match strtok 61 rest with
    | none => none
    | some (value, _) => some (key, value)

/-- The body of the loop over the tokens. -/
def setToken (m : MetaData F) (token : Bytes) : MetaData F :=
  match keyValue token with
  | none => m
  | some (key, value) =>
    match fieldOf key with
    | none => m
    | some f => Function.update m f (f.type.parse atof value)

/-- `populate_meta_struct`. -/
def populateMetaStruct (metaBuff : Bytes) : MetaData F :=
  (tokens 59 metaBuff).foldl (setToken atof) (resetMetaStruct pe)

/-- `MAXIMUM_HEADER_SIZE`. -/
def maximumHeaderSize : Nat := 3000

/-- `control_listener` on the last frame of an OPEN: the reply to a frame that does not fit, or the
metadata of the item. -/
def receiveMetadata (frame : Bytes) : Except String (MetaData F) :=
  if maximumHeaderSize - 1 < frame.length then .error "ERROR: frame too long"
  else
    let metadata := cString frame
    .ok (if metadata = [] then resetMetaStruct pe else populateMetaStruct atof pe metadata)

end Populate

end MultiDAQ.Receiver
