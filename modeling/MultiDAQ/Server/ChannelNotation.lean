import MultiDAQ.Client.Channels
import MultiDAQ.Server.ChannelSelection

/-!
# How channels are written

`normalize_user_channels` (`server/utils/channels.py`), which every command for the HV board passes,
and the argument of `parse_user_channels` (`server/services/channel_selection_service.py`), which
the acquisition passes.
-/

namespace MultiDAQ.Server

open MultiDAQ.Lib
open MultiDAQ.Client (appendNew isAll PayloadChannels)

/-- An item of a list: an integer, or another value, by what `int` makes of it. -/
inductive ChannelItem
  | int (channel : Int)
  | other (asInt : Option Int)
  deriving DecidableEq, Repr

def ChannelItem.int? : ChannelItem → Option Int
  | int channel => some channel
  | other _ => none

def ChannelItem.asInt : ChannelItem → Option Int
  | int channel => some channel
  | other asInt => asInt

/-- The channels that a user gives. -/
inductive ChannelsInput
  | text (text : List Char)
  | int (channel : Int)
  | bool (value : Bool)
  | list (items : List ChannelItem)
  | tuple (items : List ChannelItem)
  | other
  deriving DecidableEq, Repr

/-- The canonical form. -/
inductive NormalChannels
  | all
  | list (channels : List Int)
  deriving DecidableEq, Repr

/-- `list(dict.fromkeys(values))`. -/
def fromkeys (values : List Int) : List Int := values.foldl appendNew []

/-- The end of `normalize_user_channels`. -/
def checkValues (values : List Int) (nChannels : Nat) : Except Unit NormalChannels :=
  if values.any fun value => value < 0 || value ≥ nChannels then .error ()
  else .ok (.list (fromkeys values))

/-- `normalize_user_channels`; it raises a `ValueError` or a `TypeError`. -/
def ChannelsInput.normalizeUserChannels (channels : ChannelsInput) (nChannels : Nat := 7) :
    Except Unit NormalChannels :=
  match channels with
  | .text s =>
    let s := stripChars pySpace s
    if isAll s then .ok .all
    else match (s.splitOn ',').mapM fun part => pyInt (stripChars pySpace part) with
      | none => .error ()
      | some values => checkValues values nChannels
  | .int channel => checkValues [channel] nChannels
  | .list items | .tuple items =>
    if items = [] then .error ()
    else match items.mapM ChannelItem.int? with
      | none => .error ()
      | some values => checkValues values nChannels
  | .bool _ | .other => .error ()

/-- The canonical form in a payload. -/
def NormalChannels.payload : NormalChannels → PayloadChannels
  | all => .text ['a', 'l', 'l']
  | list channels => .list channels

/-- What `parse_user_channels` makes of the type of its argument. -/
def ChannelsInput.userChannels : ChannelsInput → UserChannels
  | text s =>
    if s = ['a', 'l', 'l'] then .all
    else .text ((((s.splitOn ',').map (stripChars pySpace)).filter (· ≠ [])).map pyInt)
  | int channel => .int channel
  | bool value => .int (if value then 1 else 0)
  | list items => .list (items.map ChannelItem.asInt)
  | tuple _ | other => .other

end MultiDAQ.Server
