import MultiDAQ.Client.HvLists
import MultiDAQ.Lib.PyInt

/-!
# Channels in a payload

`client/utils/channels.py`. The server numbers the channels from 0, the HV board from 1.
-/

namespace MultiDAQ.Client

open MultiDAQ.Lib

/-- The channels of a payload. A boolean is the integer that it equals. -/
inductive PayloadChannels
  | int (channel : Int)
  | list (channels : List Int)
  | text (text : List Char)
  deriving DecidableEq, Repr

/-- `text.lower() == "all"`. Only letters of ASCII are lowered to these. -/
def isAll (text : List Char) : Bool := text.map Char.toLower = ['a', 'l', 'l']

def PayloadChannels.chList (nChannels : Nat) : PayloadChannels → Option (List Int)
  | .int channel => some [channel]
  | .list channels => some channels
  | .text s =>
    if isAll s then some ((List.range nChannels).map Int.ofNat) else (s.splitOn ',').mapM pyInt

/-- `channels_definition`; it raises a `ValueError`. -/
def channelsDefinition (channels : PayloadChannels) (nChannels : Nat := 7)
    (hvChannels rcChannels : Bool := false) : Except Unit (List Int) :=
  match channels.chList nChannels with
  | none => .error ()
  | some chList =>
    if chList.any fun ch => ch < 0 || ch ≥ nChannels then .error ()
    else
      let chList := if hvChannels then chList.map (· + 1) else chList
      .ok (if rcChannels then chList.map (· + 20) else chList)

end MultiDAQ.Client
