import Mathlib.Data.Nat.Digits.Defs
import MultiDAQ.Client.RcInterface
import MultiDAQ.Lib.BitMask
import MultiDAQ.Lib.PyInt
import MultiDAQ.Server.ChannelNotation

/-!
# The trigger of an acquisition

`build_trigger_configuration` and `_build_trigger_registers`
(`server/services/acquisition_service.py`): from the arguments of the command to the registers of the
run control, and `_decode_auto_trigger_config` (`client/hardware/rc/rc_interface.py`), which reads
register 31 back.
-/

namespace MultiDAQ.Server

open MultiDAQ.Lib
open MultiDAQ.Client (DictArg PyVal RcAcqDict sorted)

inductive TriggerMode
  | self
  | external
  | auto
  deriving DecidableEq, Repr

def TriggerMode.ofText? (text : String) : Option TriggerMode :=
  if text = "self" then some .self
  else if text = "external" then some .external
  else if text = "auto" then some .auto
  else none

inductive TriggerInput
  | differential
  | singleEnded
  deriving DecidableEq, Repr

def TriggerInput.ofText? (text : String) : Option TriggerInput :=
  if text = "differential" then some .differential
  else if text = "single-ended" then some .singleEnded
  else none

inductive TriggerPolarity
  | default
  | inverted
  deriving DecidableEq, Repr

def TriggerPolarity.ofText? (text : String) : Option TriggerPolarity :=
  if text = "default" then some .default
  else if text = "inverted" then some .inverted
  else none

inductive AutoLogic
  | majority
  | exact
  deriving DecidableEq, Repr

def AutoLogic.ofText? (text : String) : Option AutoLogic :=
  if text = "majority" then some .majority
  else if text = "exact" then some .exact
  else none

/-- The arguments of the command. Channels that are not a string are `none`. -/
structure TriggerArgs where
  triggerMode : String
  windowNs : Int
  delayNs : Int
  triggerInput : String
  polarity : String
  autoLogic : String
  multiplicity : Option Int
  channels : Option (List Char)
  saveExternal : Bool
  saveAuto : Bool
  deriving DecidableEq, Repr

structure TriggerConfiguration where
  mode : TriggerMode
  inputType : TriggerInput
  polarity : TriggerPolarity
  windowNs : Int
  delayNs : Int
  autoLogic : Option AutoLogic
  multiplicity : Option Int
  autoChannels : Option (List Int)
  saveExternal : Bool
  saveAuto : Bool
  deriving DecidableEq, Repr

/-! ## From the arguments to a configuration -/

/-- A window, or a delay, that the trigger can be set to. -/
def validTiming (windowNs delayNs : Int) : Bool :=
  0 < windowNs && 0 ≤ delayNs && windowNs % 5 = 0 && delayNs % 5 = 0

def rcChannel? (channel : Int) : Option Int :=
  if channel < 0 ∨ 7 ≤ channel then none else some channel

/-- The channels of an exact combination. -/
def parseAutoChannels (rawChannels : List Char) : Option (List Int) :=
  let items := ((rawChannels.splitOn ',').map (stripChars pySpace)).filter (· ≠ [])
  match items.mapM fun item => pyInt item >>= rcChannel? with
  | none => none
  | some channels => if channels = [] then none else some (sorted (fromkeys channels))

def selfTrigger : TriggerConfiguration where
  mode := .self
  inputType := .differential
  polarity := .default
  windowNs := 0
  delayNs := 0
  autoLogic := none
  multiplicity := none
  autoChannels := none
  saveExternal := false
  saveAuto := false

def externalTrigger (args : TriggerArgs) : Option TriggerConfiguration := do
  let inputType ← TriggerInput.ofText? args.triggerInput
  let polarity ← TriggerPolarity.ofText? args.polarity
  pure {
    mode := .external, inputType, polarity
    windowNs := args.windowNs
    delayNs := args.delayNs
    autoLogic := none
    multiplicity := none
    autoChannels := none
    saveExternal := true
    saveAuto := args.saveAuto }

def autoTrigger (args : TriggerArgs) (autoLogic : AutoLogic) (multiplicity : Option Int)
    (autoChannels : Option (List Int)) : TriggerConfiguration where
  mode := .auto
  inputType := .differential
  polarity := .default
  windowNs := args.windowNs
  delayNs := args.delayNs
  autoLogic := some autoLogic
  multiplicity := multiplicity
  autoChannels := autoChannels
  saveExternal := args.saveExternal
  saveAuto := true

/-- `build_trigger_configuration`. -/
def buildTriggerConfiguration (args : TriggerArgs) : Option TriggerConfiguration :=
  match TriggerMode.ofText? args.triggerMode with
  | none => none
  | some .self => some selfTrigger
  | some mode =>
    if !validTiming args.windowNs args.delayNs then none
    else if mode = .external then externalTrigger args
    else match AutoLogic.ofText? args.autoLogic with
      | none => none
      | some .majority =>
        match args.multiplicity with
        | none => none
        | some multiplicity =>
          if multiplicity < 1 ∨ 7 < multiplicity then none
          else some (autoTrigger args .majority (some multiplicity) none)
      | some .exact => do
        let autoChannels ← parseAutoChannels (← args.channels)
        pure (autoTrigger args .exact none (some autoChannels))

/-! ## From a configuration to the registers -/

/-- What `_build_trigger_registers` returns: the masked value of register 15, and the values of the
others by their address. -/
structure TriggerRegisters where
  reg15Mask : Nat
  reg15Value : Nat
  registers : List (Int × Int)
  deriving DecidableEq, Repr

/-- `TRIGGER_REG15_MASK`. -/
def triggerReg15Mask : Nat := 1 <<< 1 ||| 1 <<< 4 ||| 1 <<< 7 ||| 1 <<< 8

/-- `AUTO_TRIGGER_REG31_DEFAULT`. -/
def autoTriggerReg31Default : Nat := 0b00001111

/-- `normalized_channels`, for channels that the run control has. -/
def normalizedChannels (effectiveChannels : List Int) : Option (List Int) :=
  if effectiveChannels = [] then none
  else (effectiveChannels.mapM rcChannel?).map fun channels => sorted (fromkeys channels)

/-- A bit that is set under a condition. -/
def bitIf (condition : Bool) (bit : Nat) : Nat := if condition then 1 <<< bit else 0

def reg15Value (c : TriggerConfiguration) : Nat :=
  bitIf (c.mode ≠ .self) 1 ||| bitIf (c.mode = .auto) 4 |||
    bitIf (c.mode = .external ∧ c.inputType = .singleEnded) 7 |||
    bitIf (c.mode = .external ∧ c.polarity = .inverted) 8

/-- Registers 16 and 18, in units of 5 ns. -/
def timingRegisters (c : TriggerConfiguration) : Option (Int × Int) :=
  if c.mode = .self then some (0, 0)
  else if !validTiming c.windowNs c.delayNs then none
  else some (c.windowNs / 5, c.delayNs / 5)

/-- The bits of the channels. -/
def channelBits (channels : List Int) : List Nat := channels.map Int.toNat

def reg31Value (c : TriggerConfiguration) (normalized : List Int) : Option Nat :=
  if c.mode ≠ .auto then some autoTriggerReg31Default
  else match c.autoLogic with
    | none => none
    | some .majority =>
      match c.multiplicity with
      | none => none
      | some multiplicity =>
        if multiplicity < 1 ∨ 7 < multiplicity then none
        else if normalized.length < multiplicity then none
        else some (setBits 0 (List.range multiplicity.toNat))
    | some .exact =>
      let autoChannels := c.autoChannels.getD []
      if autoChannels = [] then none
      else if autoChannels.any (· ∉ normalized) then none
      else some (setBits (1 <<< 7) (channelBits autoChannels))

/-- `_build_trigger_registers`. -/
def buildTriggerRegisters (c : TriggerConfiguration) (effectiveChannels : List Int) :
    Option TriggerRegisters := do
  let normalized ← normalizedChannels effectiveChannels
  let channelMask := setBits 0 (channelBits normalized)
  let (reg16Value, reg18Value) ← timingRegisters c
  let reg31Value ← reg31Value c normalized
  let reg19Value := channelMask ||| bitIf c.saveExternal 7 ||| bitIf c.saveAuto 8
  let reg39Value := channelMask ||| bitIf (c.mode ≠ .self) 7 ||| bitIf (c.mode ≠ .self) 8
  pure {
    reg15Mask := triggerReg15Mask
    reg15Value := reg15Value c
    registers := [(16, reg16Value), (18, reg18Value), (19, reg19Value), (31, reg31Value),
      (39, reg39Value)] }

/-- The registers as the argument of `set_acq_registers`: the addresses have become strings. -/
def TriggerRegisters.payload (r : TriggerRegisters) : DictArg RcAcqDict :=
  .dict {
    registers := .dict (r.registers.map fun e => (.str (some e.1), .int e.2))
    reg15 := some (.dict { mask := .int r.reg15Mask, value := .int r.reg15Value }) }

/-! ## Register 31 read back -/

/-- `_decode_auto_trigger_config`. -/
inductive AutoTriggerConfig
  | exact (channels : List Nat)
  | majority (threshold : Nat)
  deriving DecidableEq, Repr

/-- `RC_REG31_MODE_BIT`. -/
def rcReg31ModeBit : Nat := 1 <<< 7

/-- `RC_REG31_CHANNEL_MASK`. -/
def rcReg31ChannelMask : Nat := 0x7F

def decodeAutoTriggerConfig (reg31Value : Nat) : AutoTriggerConfig :=
  let channelMask := reg31Value &&& rcReg31ChannelMask
  if reg31Value &&& rcReg31ModeBit ≠ 0 then
    .exact ((List.range 7).filter fun ch => channelMask &&& 1 <<< ch ≠ 0)
  else .majority ((Nat.digits 2 channelMask).count 1)

end MultiDAQ.Server
