import MultiDAQ.Client.HvPower
import MultiDAQ.Lib.Utf8

/-!
# Serial numbers in the registers

How a serial number is written into the registers of an HV board, and how they are read
(`client/hardware/hv/hvmodbus.py`). The entry of a channel in the serial map is what `getInfo`
reads, without its padding (`client/hardware/hv/hv_interface.py`).
-/

namespace MultiDAQ.Client.HV

open MultiDAQ.Lib

/-- The registers that `getInfo` reads, as unsigned words. -/
structure InfoRegisters where
  fwver : List Nat
  pmtsn : List Nat
  hvsn : List Nat
  febsn : List Nat
  devid : Nat × Nat
  deriving DecidableEq, Repr

/-- `struct.unpack(">nH", b)`. -/
def unpackWords : List UInt8 → List Nat
  | high :: low :: bytes => (256 * high.toNat + low.toNat) :: unpackWords bytes
  | _ => []

/-- `struct.pack(">nh", *words)`; it raises on a word that is not a signed one. -/
def packSigned (words : List Nat) : Option (List UInt8) :=
  if words.all (· < 0x8000) then
    some (words.flatMap fun word => [(word / 256).toUInt8, (word % 256).toUInt8])
  else none

/-- The bytes of a serial number, cut or filled up to twelve. -/
def serialBytes (sn : String) : List UInt8 :=
  let bytes := (utf8Encode sn.toList).take 12
  bytes ++ List.replicate (12 - bytes.length) 0

/-- `_pack_sn_to_registers`. -/
def packSnToRegisters (sn : String) : List Nat := unpackWords (serialBytes sn)

/-- The words as a text; `none` where it raises. -/
def decodeRegisters (words : List Nat) : Option String :=
  ((packSigned words).bind utf8Decode).map String.ofList

/-- The result of `getInfo`. -/
structure BoardInfo where
  fwver : String
  pmtsn : String
  hvsn : String
  febsn : String
  devid : Nat
  deriving DecidableEq, Repr

namespace InfoRegisters

variable (regs : InfoRegisters)

/-- `getInfo`; it raises if one of the texts cannot be decoded. -/
def getInfo : Option BoardInfo := do
  let fwver ← decodeRegisters regs.fwver
  let pmtsn ← decodeRegisters regs.pmtsn
  let hvsn ← decodeRegisters regs.hvsn
  let febsn ← decodeRegisters regs.febsn
  return { fwver, pmtsn, hvsn, febsn, devid := (regs.devid.2 <<< 16) + regs.devid.1 }

/-- The entry of the channel in `get_serial_map`. -/
def serialEntry : String :=
  match regs.getInfo with
  | some info => if hasSerial info.pmtsn then normalizeSerial info.pmtsn else "0"
  | none => "0"

/-- `set_pmt_serial`, which refuses a channel that is out of range. -/
def setPmtSerial (channel : Int) (serial : String) : Option InfoRegisters :=
  if channel < 1 ∨ HVModBus.numChannels < channel then none
  else some { regs with pmtsn := packSnToRegisters serial }

end InfoRegisters

end MultiDAQ.Client.HV
