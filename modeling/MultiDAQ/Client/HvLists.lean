import Mathlib.Data.List.Sort
import MultiDAQ.Lib.PyText

/-!
# The channel lists of the HV interface

The six lists of `HV` (`client/hardware/hv/hv_interface.py`) and the operations that move a channel
from one to another. Channels are numbered from 1 to 7. Every operation runs under `channels_lock`.
-/

namespace MultiDAQ.Client

open MultiDAQ.Lib

structure HvLists where
  okCh : List Int := []
  badCh : List Int := []
  onCh : List Int := []
  offCh : List Int := []
  fixedBad : List Int := []
  missingSerial : List Int := []
  deriving DecidableEq, Repr

def sorted (l : List Int) : List Int := l.insertionSort (· ≤ ·)

/-- `if ch not in l: l.append(ch)`. -/
def appendNew (l : List Int) (ch : Int) : List Int := if ch ∈ l then l else l ++ [ch]

/-- A `channels` argument: one channel, a list of channels, or the string "all". -/
inductive ChannelsArg
  | one (ch : Int)
  | list (channels : List Int)
  | all
  deriving DecidableEq, Repr

def ChannelsArg.chList (nChannels : Nat) : ChannelsArg → List Int
  | .one ch => [ch]
  | .list channels => channels
  | .all => (List.range nChannels).map fun n => (n + 1 : Int)

/-- The channels of an argument; raises on one that is out of range. -/
def hvChannelsDefinition (channels : ChannelsArg) (nChannels : Nat := 7) :
    Except String (List Int) :=
  match (channels.chList nChannels).find? fun ch => ch < 1 || (nChannels : Int) < ch with
  | some ch => .error s!"Invalid HV channel: {ch}"
  | none => .ok (channels.chList nChannels)

namespace HvLists

variable (s : HvLists)

def moveToOk (channel : Int) : HvLists := { s with
  badCh := sorted (s.badCh.erase channel)
  okCh := sorted (appendNew s.okCh channel)
  offCh := sorted (if channel ∉ s.offCh ∧ channel ∉ s.onCh then s.offCh ++ [channel] else s.offCh) }

def moveToBad (channel : Int) : HvLists := { s with
  okCh := sorted (s.okCh.erase channel)
  badCh := sorted (appendNew s.badCh channel)
  onCh := sorted (s.onCh.erase channel)
  offCh := sorted (appendNew s.offCh channel) }

def moveToOn (channel : Int) : HvLists :=
  if channel ∉ s.okCh then s
  else { s with
    offCh := sorted (s.offCh.erase channel)
    onCh := sorted (appendNew s.onCh channel) }

def moveToOff (channel : Int) : HvLists := { s with
  onCh := sorted (s.onCh.erase channel)
  offCh := sorted (appendNew s.offCh channel) }

/-- Takes a channel out of the four working lists: what `moveToFixedBad` and `moveToMissingSerial`
begin and end with. -/
def withdraw (channel : Int) : HvLists := { s with
  onCh := sorted (s.onCh.erase channel)
  offCh := sorted (s.offCh.erase channel)
  okCh := sorted (s.okCh.erase channel)
  badCh := sorted (s.badCh.erase channel) }

def moveToFixedBad (channel : Int) : HvLists :=
  { s.withdraw channel with fixedBad := appendNew s.fixedBad channel }

def moveToMissingSerial (channel : Int) : HvLists :=
  { s.withdraw channel with missingSerial := appendNew s.missingSerial channel }

def removeFromFixedBad (channel : Int) : HvLists :=
  { s with fixedBad := s.fixedBad.erase channel }.moveToBad channel

def removeFromMissingSerial (channel : Int) : HvLists :=
  { s with missingSerial := s.missingSerial.erase channel }.moveToBad channel

/-- Makes the fixed-bad channels the ones of the list. -/
def setFixedBadChannels (channels : List Int) : Except String HvLists := do
  let newFixed := (← hvChannelsDefinition (.list channels)).dedup
  let oldFixed := s.fixedBad.dedup
  let removed := sorted (oldFixed.filter (· ∉ newFixed))
  let added := sorted (newFixed.filter (· ∉ oldFixed))
  pure (added.foldl moveToFixedBad (removed.foldl removeFromFixedBad s))

def okOffChannels : List Int := sorted ((s.okCh.filter (· ∈ s.offCh)).dedup)

end HvLists

/-! ## The state of one channel -/

inductive ChannelState
  | fixedBad
  | missingSerial
  | bad
  | ok
  | unknown
  deriving DecidableEq, Repr

/-- The entry of `_build_channel_state_lookup` for one channel: its class, and whether it is on. -/
def HvLists.channelState (s : HvLists) (ch : Int) : ChannelState × Option Bool :=
  if ch ∈ s.fixedBad then (.fixedBad, none)
  else if ch ∈ s.missingSerial then (.missingSerial, none)
  else if ch ∈ s.badCh then (.bad, none)
  else if ch ∈ s.onCh then (.ok, some true)
  else if ch ∈ s.offCh then (.ok, some false)
  else (.unknown, none)

end MultiDAQ.Client
