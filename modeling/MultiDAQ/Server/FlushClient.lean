import Mathlib.Data.Nat.Bitwise
import MultiDAQ.Lib.Interaction

/-!
# `flush_client`

The reset of one client between acquisitions (`server/services/acquisition_service.py`): the STOP
and the RESET of its producer go to the receiver, the accesses to registers 15 and 19 to the client.
Every call may be answered in any way or raise; `sleep` does neither.
-/

namespace MultiDAQ.Server

open MultiDAQ.Lib MultiDAQ.Lib.Interaction

namespace AcquisitionService

/-- An exception that `except Exception` catches, and one that it does not. -/
inductive PyError
  | exception
  | baseException
  deriving DecidableEq, Repr

/-- The value of a register in a reply: an integer, or something that has no bits. -/
inductive RegisterValue
  | int (n : Int)
  | other
  deriving DecidableEq, Repr

inductive FlushCall
  | readRcRegister (address : Nat)
  | writeRcRegister (address value : Nat)
  | resolveNumericId
  | stopProducer (numericId : String)
  | resetProducer (numericId : String)
  deriving DecidableEq, Repr

abbrev FlushCall.Value : FlushCall → Type
  | .readRcRegister _ => Option RegisterValue
  | .writeRcRegister _ _ => Bool
  | .resolveNumericId => Option String
  | .stopProducer _ => Bool
  | .resetProducer _ => Bool

/-- The local variables that the `try` statement assigns. -/
structure FlushLocals where
  hardwareOk : Bool := false
  releasedOk : Bool := false
  deriving DecidableEq, Repr

/-- What the client and the receiver answer. -/
abbrev FlushPeers := Device FlushCall FlushCall.Value PyError

abbrev FlushWorld := World FlushLocals FlushCall

abbrev FlushM (α : Type) := Interaction FlushCall FlushCall.Value PyError FlushLocals α

def resetMask : Nat := 1 <<< 3

def writableMask : Nat := 0x1BF

/-- `n & mask`, for a mask of at most 32 bits. -/
def bitAnd (n : Int) (mask : Nat) : Nat := (n % 2 ^ 32).toNat &&& mask

/-- `value & mask`. -/
def RegisterValue.bits (mask : Nat) : RegisterValue → FlushM Nat
  | .int n => pure (bitAnd n mask)
  | .other => raise .exception

def readRcRegister (address : Nat) : FlushM (Option RegisterValue) :=
  call (FlushCall.readRcRegister address)

def writeRcRegister (address value : Nat) : FlushM Bool :=
  call (FlushCall.writeRcRegister address value)

def resolveNumericId : FlushM (Option String) := call FlushCall.resolveNumericId

def stopProducer (numericId : String) : FlushM Bool := call (FlushCall.stopProducer numericId)

def resetProducer (numericId : String) : FlushM Bool := call (FlushCall.resetProducer numericId)

/-- `try: p except Exception: a`. -/
def catching {α : Type} (p : FlushM α) (a : α) : FlushM α :=
  tryExcept p fun
    | .exception => pure a
    | .baseException => raise .baseException

/-- The body of the `try` statement: a pulse of the reset bit, verified while it is held. It is
`false` where the function returns from inside. -/
def pulseReset (baseValue heldValue : Nat) : FlushM Bool := do
  if !(← writeRcRegister 15 baseValue) then pure false
  else if !(← writeRcRegister 15 heldValue) then pure false
  else
    match ← readRcRegister 15 with
    | none => pure true
    | some held =>
      let bits ← held.bits writableMask
      modify fun s => { s with hardwareOk := bits == heldValue }
      pure true

/-- The `finally` clause: the release of the reset bit. -/
def releaseReset (baseValue : Nat) : FlushM Unit :=
  catching (do
    let ok ← writeRcRegister 15 baseValue
    modify fun s => { s with releasedOk := ok }) ()

/-- `flush_client` from the `try` statement on. -/
def pulseAndVerify (numericId : String) (baseValue : Nat) : FlushM Bool := do
  let reached ← tryFinally (catching (pulseReset baseValue (baseValue ||| resetMask)) true)
    (releaseReset baseValue)
  if !reached then pure false
  else
    let s ← Interaction.read fun s => s
    if !s.hardwareOk || !s.releasedOk then pure false
    else
      match ← readRcRegister 15 with
      | none => pure false
      | some released =>
        let bits ← released.bits writableMask
        if bits ≠ baseValue then pure false
        else resetProducer numericId

/-- The writable bits of the configuration, without the reset and the flush bit. -/
def flushBase (previous : Int) : Nat := (bitAnd previous writableMask).ldiff (resetMask ||| 1 <<< 5)

def flushClient : FlushM Bool := do
  match ← readRcRegister 19 with
  | none => pure false
  | some rc19 =>
    if (← rc19.bits 0x1FF) ≠ 0 then pure false
    else
      match ← resolveNumericId with
      | none => pure false
      | some numericId =>
        if !(← stopProducer numericId) then pure false
        else
          match ← readRcRegister 15 with
          | none => pure false
          | some .other => raise .exception
          | some (.int previous) =>
            if bitAnd previous resetMask ≠ 0 then pure false
            else if !(← resetProducer numericId) then pure false
            else pulseAndVerify numericId (flushBase previous)

end AcquisitionService

end MultiDAQ.Server
