import MultiDAQ.Lib.Interaction
import Mathlib.Data.List.Range

/-!
# The Modbus line of the HV boards

`HVModBus` (`client/hardware/hv/hvmodbus.py`): the calls the client makes on the line, the decoding
of the status and alarm registers, and the address checks. A call that is not answered, or is
answered by an error, raises; `checkAddress` and `resetConnection` catch that themselves.
-/

namespace MultiDAQ.Client

open MultiDAQ.Lib MultiDAQ.Lib.Interaction

inductive HvStatus
  | up
  | down
  | rup
  | rdn
  | tup
  | tdn
  | trip
  | undef
  deriving DecidableEq, Repr

def statusString : Nat → HvStatus
  | 0 => .up
  | 1 => .down
  | 2 => .rup
  | 3 => .rdn
  | 4 => .tup
  | 5 => .tdn
  | 6 => .trip
  | _ => .undef

def alarmString (alarmCode : Nat) : String :=
  if alarmCode = 0 then "none"
  else
    let msg := " "
    let msg := if alarmCode &&& 1 ≠ 0 then msg ++ "OV " else msg
    let msg := if alarmCode &&& 2 ≠ 0 then msg ++ "UV " else msg
    let msg := if alarmCode &&& 4 ≠ 0 then msg ++ "OC " else msg
    if alarmCode &&& 8 ≠ 0 then msg ++ "OT " else msg

/-- The calls of the client on the line. Every one names the slave it is for. -/
inductive HvCall
  | resetConnection
  | readAddress (slave : Int)
  | getStatus (slave : Int)
  | getAlarm (slave : Int)
  | getVoltage (slave : Int)
  | getCurrent (slave : Int)
  | getTemperature (slave : Int)
  | getVoltageSet (slave : Int)
  | getThreshold (slave : Int)
  | getInfo (slave : Int)
  | setVoltageSet (value : Int) (slave : Int)
  | setThreshold (value : Int) (slave : Int)
  | setModbusAddress (chAddr : Int) (slave : Int)
  | setPMTSerialNumber (sn : String) (slave : Int)
  | powerOn (slave : Int)
  | powerOff (slave : Int)
  | reset (slave : Int)
  deriving DecidableEq, Repr

/-- What a call returns: the registers that were read, nothing for a write. Of `getInfo` only the
PMT serial is used. -/
def HvCall.Value : HvCall → Type
  | .getStatus _ | .getAlarm _ | .getTemperature _ | .getVoltageSet _ | .getThreshold _ => Nat
  | .getVoltage _ | .getCurrent _ => Int
  | .getInfo _ => String
  | _ => Unit

/-- The boards at the other end of the line: any pattern of answers and errors. -/
abbrev HvBus := Device HvCall HvCall.Value String

namespace HVModBus

variable {σ : Type}

abbrev Bus (σ α : Type) := Interaction HvCall HvCall.Value String σ α

def numChannels : Int := 20

def getStatus (slave : Int) : Bus σ HvStatus := statusString <$> call (HvCall.getStatus slave)

def getAlarm (slave : Int) : Bus σ String := alarmString <$> call (HvCall.getAlarm slave)

/-- In thousandths of a volt. -/
def getVoltage (slave : Int) : Bus σ Int := call (HvCall.getVoltage slave)

def getCurrent (slave : Int) : Bus σ Int := call (HvCall.getCurrent slave)

def getTemperature (slave : Int) : Bus σ Nat := call (HvCall.getTemperature slave)

def getVoltageSet (slave : Int) : Bus σ Nat := call (HvCall.getVoltageSet slave)

def getThreshold (slave : Int) : Bus σ Nat := call (HvCall.getThreshold slave)

def getInfo (slave : Int) : Bus σ String := call (HvCall.getInfo slave)

def setVoltageSet (value slave : Int) : Bus σ Unit := call (HvCall.setVoltageSet value slave)

def setThreshold (value slave : Int) : Bus σ Unit := call (HvCall.setThreshold value slave)

def setModbusAddress (chAddr slave : Int) : Bus σ Unit := call (HvCall.setModbusAddress chAddr slave)

def setPMTSerialNumber (sn : String) (slave : Int) : Bus σ Unit :=
  call (HvCall.setPMTSerialNumber sn slave)

def powerOn (slave : Int) : Bus σ Unit := call (HvCall.powerOn slave)

def powerOff (slave : Int) : Bus σ Unit := call (HvCall.powerOff slave)

def reset (slave : Int) : Bus σ Unit := call (HvCall.reset slave)

def resetConnection : Bus σ Bool :=
  tryExcept ((fun _ => true) <$> call HvCall.resetConnection) fun _ => pure false

def checkAddressBoundary (channel : Int) : Bool := decide (1 ≤ channel ∧ channel ≤ numChannels)

/-- `open` reads a register of the slave: the address is good when that is answered. -/
def checkAddress (chAddr : Int) : Bus σ Bool :=
  tryExcept ((fun _ => true) <$> call (HvCall.readAddress chAddr)) fun _ => pure false

/-- The first address that answers. -/
def firstAddress : List Int → Bus σ (Option Int)
  | [] => pure none
  | addr :: rest => do
    if ← checkAddress addr then pure (some addr) else firstAddress rest

/-- The preferred address is tried first, then the others. -/
def findFebAddress (preferredAddress : Int) : Bus σ (Option Int) :=
  firstAddress (preferredAddress ::
    ((List.range 20).map fun n => (n + 1 : Int)).filter (· ≠ preferredAddress))

end HVModBus

end MultiDAQ.Client
