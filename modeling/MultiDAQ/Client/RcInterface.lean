import MultiDAQ.Client.Register39
import MultiDAQ.Lib.Dict
import Mathlib.Logic.Function.Basic

/-!
# The registers of the run control

`RC` (`client/hardware/rc/rc_interface.py`): the accesses to the registers mapped in memory, any of
which may fail, and the operations of the commands on them. Of the dictionary that an operation
returns there is what the service reads: the success, and the value of a register that was read; of
an acquisition configuration also the registers that were set and those that failed.
-/

namespace MultiDAQ.Client

open MultiDAQ.Lib MultiDAQ.Lib.Interaction

/-- A value of a payload. Of a string there is the integer that `int(x, 0)` reads in it, if any. -/
inductive PyVal
  | int (n : Int)
  | str (int0 : Option Int)
  | other
  deriving DecidableEq, Repr

/-- An item of a payload that should be a dictionary. -/
inductive DictArg (δ : Type)
  | dict (d : δ)
  | other
  deriving DecidableEq

/-- The accesses to the mapped memory. -/
inductive RcCall
  | read (addr : Int)
  | write (addr value : Int)
  deriving DecidableEq

/-- The memory: any pattern of accesses that succeed and accesses that fail. -/
abbrev RcMemory := Device RcCall (fun _ => Unit) String

/-- An event `rc_configuration_changed`. An old value that could not be read is `none`. -/
structure RcEvent where
  register : Int
  oldValue : Option Nat
  newValue : PyVal
  reason : Option String
  sourceRequestId : String
  deriving DecidableEq

/-- What the registers hold, and the events emitted so far. -/
structure RcState where
  registers : Int → Nat
  events : List RcEvent := []

abbrev RcM (α : Type) := Interaction RcCall (fun _ => Unit) String RcState α

structure RcResult where
  success : Bool
  value : Option Nat := none
  successfulRegisters : List PyVal := []
  failedRegisters : List PyVal := []
  deriving DecidableEq

/-- The `reg15` of an acquisition configuration; a missing item is `other`. -/
structure Reg15Config where
  mask : PyVal
  value : PyVal
  deriving DecidableEq

/-- The argument of `set_acq_registers`. -/
structure RcAcqDict where
  registers : DictArg (List (PyVal × PyVal)) := .dict []
  reg15 : Option (DictArg Reg15Config) := none
  deriving DecidableEq

def ChannelsArg.rcChList (nChannels : Nat) : ChannelsArg → List Int
  | .one ch => [ch]
  | .list channels => channels
  | .all => (List.range nChannels).map fun n => (n : Int)

/-- The channels of an argument, numbered from 0; raises on one that is out of range. -/
def rcChannelsDefinition (channels : ChannelsArg) (nChannels : Nat := 7) :
    Except String (List Int) :=
  match (channels.rcChList nChannels).find? fun ch => ch < 0 || (nChannels : Int) ≤ ch with
  | some ch => .error s!"Invalid channel: {ch}"
  | none => .ok (channels.rcChList nChannels)

namespace RC

def maxRegs : Int := 50

def maxRegisterValue : Int := 0xFFFFFFFF

def acqConfigRegisters : List Int := [16, 18, 19, 31, 39]

def acqRegisterWriteOrder : List Int := [16, 18, 31, 39, 19]

def triggerReg15AllowedMask : Nat := 1 <<< 1 ||| 1 <<< 4 ||| 1 <<< 7 ||| 1 <<< 8

def rcReg15TriggeredRateEnableBit : Nat := 1 <<< 1

def rcHardwareSnapshot : List Int := [0, 1, 10, 15, 16, 18, 19, 31, 39]

def orRaise {α : Type} : Except String α → RcM α
  | .ok a => pure a
  | .error e => raise e

def autoInt : PyVal → Except String Int
  | .int n => .ok n
  | .str (some n) => .ok n
  | .str none => .error "ValueError"
  | .other => .error "TypeError"

def checkRegBoundary (addr : Int) : Bool := 0 ≤ addr && addr ≤ maxRegs

def read (addr : PyVal) : RcM (Option Nat) := do
  let a ← orRaise (autoInt addr)
  if checkRegBoundary a then
    attempt (do
      call (RcCall.read a)
      Interaction.read fun s => s.registers a) (pure ())
  else pure none

/-- A value of four bytes for the register `addr`. -/
def writeBytes (addr value : Int) : RcM Bool :=
  tryExcept (do
    call (RcCall.write addr value)
    modify fun s => { s with registers := Function.update s.registers addr value.toNat }
    pure true) fun _ => pure false

/-- Only an integer is an index of the memory, and only an integer of 32 bits has four bytes. -/
def write (addr value : PyVal) : RcM Bool := do
  let a ← orRaise (autoInt addr)
  if checkRegBoundary a then
    match addr, value with
    | .int addr, .int value =>
      if 0 ≤ value ∧ value ≤ maxRegisterValue then writeBytes addr value else pure false
    | _, _ => pure false
  else pure false

def readRegister (address : PyVal) : RcM RcResult := do
  match ← read address with
  | none => pure { success := false }
  | some value => pure { success := true, value := some value }

/-- The registers that are read are in the answer, whatever became of the reads. -/
def readAcqRegisters (addresses : List PyVal) : RcM RcResult := do
  let addresses := if addresses = [] then rcHardwareSnapshot.map PyVal.int else addresses
  let _ ← mapEach addresses read
  pure { success := true }

def writeRegister (address value : PyVal) : RcM RcResult := do
  pure { success := ← write address value }

/-! ## The acquisition configuration -/

/-- One turn of the first loop of `set_acq_registers`: the valid registers so far, and the ones that
failed. -/
def normalizeRegister (acc : Dict Int Int × List PyVal) (entry : PyVal × PyVal) :
    Dict Int Int × List PyVal :=
  match autoInt entry.1 with
  | .error _ => (acc.1, acc.2 ++ [entry.1])
  | .ok address =>
    if address ∉ acqConfigRegisters then (acc.1, acc.2 ++ [.int address])
    else
      match entry.2 with
      | .int value =>
        if value < 0 ∨ maxRegisterValue < value then (acc.1, acc.2 ++ [.int address])
        else (acc.1.set address value, acc.2)
      | _ => (acc.1, acc.2 ++ [.int address])

/-- `normalized_registers`, and `failed_registers` after the first loop. -/
def normalizeRegisters (rawRegisters : List (PyVal × PyVal)) : Dict Int Int × List PyVal :=
  rawRegisters.foldl normalizeRegister (Dict.empty, [])

/-- Writes a register that the configuration has; nothing for another. -/
def writeNormalized (normalized : Dict Int Int) (address : Int) : RcM (Option Bool) :=
  match normalized.get? address with
  | none => pure none
  | some value => some <$> write (.int address) (.int value)

def reg15Valid (config : Reg15Config) : Option (Nat × Nat) :=
  match config.mask, config.value with
  | .int mask, .int value =>
    if 0 ≤ mask ∧ mask ≤ maxRegisterValue ∧ mask.toNat.ldiff triggerReg15AllowedMask = 0 ∧
        0 ≤ value ∧ value ≤ maxRegisterValue ∧ value.toNat.ldiff mask.toNat = 0 then
      some (mask.toNat, value.toNat)
    else none
  | _, _ => none

/-- The read-modify-write of register 15; whether it succeeded. -/
def setReg15 (config : Reg15Config) : RcM Bool :=
  match reg15Valid config with
  | none => pure false
  | some (mask, value) => do
    match ← read (.int 15) with
    | none => pure false
    | some previousValue =>
      let newValue : Nat := previousValue.ldiff mask ||| (value &&& mask)
      write (.int 15) (.int newValue)

/-- `set_acq_registers` from the first loop on. -/
def configureRegisters (rawRegisters : List (PyVal × PyVal)) (reg15Config : Option Reg15Config) :
    RcM RcResult := do
  let (normalized, failed) := normalizeRegisters rawRegisters
  let outcomes ← mapEach acqRegisterWriteOrder (writeNormalized normalized)
  let written := (outcomes.filter (·.2 = some true)).map fun o => PyVal.int o.1
  let unwritten := (outcomes.filter (·.2 = some false)).map fun o => PyVal.int o.1
  let reg15Ok ← match reg15Config with
    | none => pure true
    | some config => setReg15 config
  let failedRegisters := failed ++ unwritten ++ (if reg15Ok then [] else [PyVal.int 15])
  pure {
    success := failedRegisters.isEmpty
    successfulRegisters :=
      written ++ (if reg15Config.isSome && reg15Ok then [PyVal.int 15] else [])
    failedRegisters := failedRegisters }

def setAcqRegisters : DictArg RcAcqDict → RcM RcResult
  | .other => pure { success := false }
  | .dict config =>
    match config.registers with
    | .other => pure { success := false }
    | .dict rawRegisters =>
      match config.reg15 with
      | none => configureRegisters rawRegisters none
      | some (.dict reg15Config) => configureRegisters rawRegisters (some reg15Config)
      | some .other => pure { success := false, failedRegisters := [.int 15] }

/-! ## The modes of the channels -/

/-- The channels of an argument with their bits, for the operations on several channels. -/
def withMask (channels : ChannelsArg) (action : Nat → RcM Bool) : RcM RcResult := do
  let channelList ← orRaise (rcChannelsDefinition channels)
  if channelList = [] then pure { success := false }
  else
    match channelMask 0 channelList with
    | none => pure { success := false }
    | some mask => pure { success := ← action mask }

def reset (channels : ChannelsArg) : RcM RcResult := withMask channels fun mask => do
  let reg0 ← read (.int 0)
  let reg1 ← read (.int 1)
  match reg0, reg1 with
  | some reg0, some reg1 =>
    let ok0 ← write (.int 0) (.int (reg0.ldiff mask : Nat))
    let ok1 ← write (.int 1) (.int (reg1.ldiff mask : Nat))
    pure (ok0 && ok1)
  | _, _ => pure false

def boot (channels : ChannelsArg) : RcM RcResult := withMask channels fun mask => do
  let ok17 ← write (.int 17) (.int mask)
  let ok0 ← write (.int 0) (.int mask)
  let ok1 ← write (.int 1) (.int mask)
  pure (ok0 && ok1 && ok17)

def start (channels : ChannelsArg) : RcM RcResult := withMask channels fun mask => do
  let ok1 ← write (.int 1) (.int mask)
  let ok0 ← write (.int 0) (.int mask)
  let ok39 ← write (.int 39) (.int mask)
  pure (ok0 && ok1 && ok39)

def febResetAfterFlash : RcM RcResult := do
  let ok1 ← write (.int 1) (.int 0)
  let ok0 ← write (.int 0) (.int 0)
  let ok17 ← write (.int 17) (.int 0)
  pure { success := ok1 && ok0 && ok17 }

def febSelectForAddressChange (channels : ChannelsArg) : RcM RcResult := do
  match ← orRaise (rcChannelsDefinition channels) with
  | [ch] =>
    if 0 ≤ ch ∧ ch < 7 then pure { success := ← write (.int 1) (.int (1 <<< ch.toNat : Nat)) }
    else pure { success := false }
  | _ => pure { success := false }

/-! ## The rates -/

def freeRateMonitoring (channels : ChannelsArg) : RcM RcResult := do
  let channelList ← orRaise (rcChannelsDefinition channels)
  if channelList = [] then pure { success := false }
  else
    let enableMask ← read (.int 39)
    let values ← mapEach channelList fun channel => read (.int (channel + 20))
    pure { success := enableMask.isSome && values.all (·.2.isSome) }

def trgRateMonitoring (channels : ChannelsArg) (includeTrgChannels : Bool := true) :
    RcM RcResult := do
  let channelList ← orRaise (rcChannelsDefinition channels)
  if channelList = [] then pure { success := false }
  else
    let settings ← mapEach [27, 28, 31, 39] fun addr => read (.int addr)
    if includeTrgChannels then
      let values ← mapEach channelList fun channel => read (.int (channel + 32))
      pure { success := settings.all (·.2.isSome) && values.all (·.2.isSome) }
    else pure { success := settings.all (·.2.isSome) }

def monitorAllRates (channels : ChannelsArg) : RcM RcResult := do
  match ← read (.int 15) with
  | none => pure { success := false }
  | some reg15Value =>
    let free ← freeRateMonitoring channels
    let trigger ← trgRateMonitoring channels (reg15Value &&& rcReg15TriggeredRateEnableBit ≠ 0)
    pure { success := free.success && trigger.success }

end RC

end MultiDAQ.Client
