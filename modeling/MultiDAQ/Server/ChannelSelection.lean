import MultiDAQ.Client.HvPower
import MultiDAQ.Server.ClientLiveness
import MultiDAQ.Server.State

/-!
# The selection of the channels

`server/services/channel_selection_service.py`: the channels of a client that an acquisition can use,
from its replies to `set_hv_sync` and `hv_on_and_wait`. The user numbers the channels from 0, the
client from 1.
-/

namespace MultiDAQ.Server

open MultiDAQ.Lib
open MultiDAQ.Client.HV (sortedSet)

/-! ## Replies -/

/-- The value of a key of a result: a list of channels, or a value that `set` refuses. -/
inductive ChannelField
  | missing
  | channels (l : List Int)
  | other (truthy : Bool)
  deriving DecidableEq, Repr

namespace ChannelField

/-- `set(result.get(key, []))`. -/
def toSet : ChannelField → Except Unit (List Int)
  | missing => .ok []
  | channels l => .ok l
  | other _ => .error ()

/-- `result.get(key, []) or …`. -/
def orElse (field next : ChannelField) : ChannelField :=
  match field with
  | missing | channels [] | other false => next
  | channels (_ :: _) | other true => field

end ChannelField

/-- A result, by its lists of channels. The one of the channels without a serial is read by nothing
here. -/
structure ReplyResult where
  okChannels : ChannelField := .missing
  onChannels : ChannelField := .missing
  offChannels : ChannelField := .missing
  badChannels : ChannelField := .missing
  fixedBadChannels : ChannelField := .missing
  missingSerialChannels : ChannelField := .missing
  successfulChannels : ChannelField := .missing
  upChannels : ChannelField := .missing
  failedChannels : ChannelField := .missing
  deriving DecidableEq, Repr

/-- The payload of a reply: the error that it reports, and its result (empty where the key is
missing, `none` for a value that is not a dictionary). -/
structure HvReply where
  error : Option String := none
  result : Option ReplyResult := some {}
  deriving DecidableEq, Repr

/-- What `send_hv_command` gives: the reply, or the reason why there is none. -/
abbrev HvAnswer := Except String HvReply

/-- `result.get`. -/
def HvReply.fields (reply : HvReply) : Except Unit ReplyResult :=
  match reply.result with
  | none => .error ()
  | some result => .ok result

/-! ## Selections -/

/-- What the user is told, by the text that it stands for; each text names the client. -/
inductive Note
  | invalidChannelSelection
  | cannotDetermineSafeChannels
  | syncErrorUsingRequested (channels : List Int)
  | badExcluded (channels : List Int)
  | fixedBadExcluded (channels : List Int)
  | requestedExcluded (channels : List Int)
  | noRequestedAvailable
  | syncFailed (reason : String)
  | syncError (error : String)
  | noOkChannels
  | onAndWaitFailed (reason : String)
  | onAndWaitError (error : String)
  | failedToGoUp (channels : List Int)
  | movedToBad (channels : List Int)
  | noChannelsAvailable
  deriving DecidableEq, Repr

structure ChannelSelection where
  channels : List Int := []
  notes : List Note := []
  deriving DecidableEq, Repr

def hvToUserChannels (channels : List Int) : List Int := channels.map (· - 1)

/-- The note about a list, unless it is empty. -/
def noteIf (note : List Int → Note) (channels : List Int) : List Note :=
  if channels = [] then [] else [note channels]

/-- The channels that a user asks for; `none` for an item that `int` refuses. The blank items of a
text are left out already. -/
inductive UserChannels
  | all
  | int (channel : Int)
  | text (items : List (Option Int))
  | list (items : List (Option Int))
  | other
  deriving DecidableEq, Repr

/-- `parse_user_channels`; it raises a `ValueError` or a `TypeError`. -/
def parseUserChannels (channels : UserChannels) (nChannels : Nat) : Except Unit (List Int) :=
  let checked (parsed : Option (List Int)) : Except Unit (List Int) :=
    match parsed with
    | none => .error ()
    | some parsed =>
      if parsed.any fun channel => channel < 0 || channel ≥ nChannels then .error ()
      else .ok (sortedSet parsed)
  match channels with
  | .all => .ok ((List.range nChannels).map Int.ofNat)
  | .int channel => checked (some [channel])
  | .text items => checked (items.mapM id)
  | .list items => checked (items.mapM id)
  | .other => .error ()

/-! ## The test path -/

/-- `get_test_rc_channels` with a reply that reports no error. -/
def selectRequested (requestedRcChannels : List Int) (syncResult : ReplyResult) :
    Except Unit ChannelSelection := do
  let okHvChannels ← syncResult.okChannels.toSet
  let badHvChannels ← syncResult.badChannels.toSet
  let fixedBadHvChannels ← syncResult.fixedBadChannels.toSet
  let badRcChannels := hvToUserChannels (sortedSet badHvChannels)
  let fixedBadRcChannels := hvToUserChannels (sortedSet fixedBadHvChannels)
  let availableRcChannels :=
    sortedSet ((hvToUserChannels (sortedSet okHvChannels)).filter (· ∉ fixedBadRcChannels))
  let notes := noteIf .badExcluded badRcChannels ++ noteIf .fixedBadExcluded fixedBadRcChannels
  let finalRcChannels := sortedSet (requestedRcChannels.filter (· ∈ availableRcChannels))
  let excludedRequestedChannels := sortedSet (requestedRcChannels.filter (· ∉ finalRcChannels))
  let notes := notes ++ noteIf .requestedExcluded excludedRequestedChannels
  if finalRcChannels = [] then return ⟨[], notes ++ [.noRequestedAvailable]⟩
  else return ⟨finalRcChannels, notes⟩

def getTestRcChannels (requestedChannels : UserChannels) (plane : CommandPlane) (sync : HvAnswer) :
    Except Unit ChannelSelection :=
  match parseUserChannels requestedChannels 7 with
  | .error () => .ok ⟨[], [.invalidChannelSelection]⟩
  | .ok requestedRcChannels =>
    match sync with
    | .error _ =>
      if plane = .control then .ok ⟨requestedRcChannels, []⟩
      else .ok ⟨[], [.cannotDetermineSafeChannels]⟩
    | .ok reply =>
      if reply.error.isSome then
        if plane = .control then
          .ok ⟨requestedRcChannels, [.syncErrorUsingRequested requestedRcChannels]⟩
        else .ok ⟨[], [.cannotDetermineSafeChannels]⟩
      else do selectRequested requestedRcChannels (← reply.fields)

/-! ## The normal path -/

/-- The power-on of the channels that are OK and OFF: the channels that went up with the notes, or
the notes of a client that is left out. -/
def switchOn (okOffChannels : List Int) (onAndWait : List Int → HvAnswer) :
    Except Unit (Option (List Int) × List Note) :=
  match onAndWait (hvToUserChannels okOffChannels) with
  | .error reason => .ok (none, [.onAndWaitFailed reason])
  | .ok reply => do
    let onResult ← reply.fields
    let notes := match reply.error with
      | some error => [Note.onAndWaitError error]
      | none => []
    let successfulOn ←
      (onResult.successfulChannels.orElse (onResult.onChannels.orElse onResult.upChannels)).toSet
    let failedOn ← onResult.failedChannels.toSet
    let badAfterOn ← onResult.badChannels.toSet
    return (some successfulOn, notes ++
      noteIf .failedToGoUp (hvToUserChannels (sortedSet failedOn)) ++
      noteIf .movedToBad (hvToUserChannels (sortedSet badAfterOn)))

/-- The end of a round: the selection of the channels that are left. -/
def concluded (finalHvChannels : List Int) (notes : List Note) : ChannelSelection :=
  if finalHvChannels = [] then ⟨[], notes ++ [.noChannelsAvailable]⟩
  else ⟨hvToUserChannels finalHvChannels, notes⟩

/-- One round of the loop of `prepare_hv_channels_for_acquisition`. -/
def prepareClient (sync : HvAnswer) (onAndWait : List Int → HvAnswer) :
    Except Unit ChannelSelection :=
  match sync with
  | .error reason => .ok ⟨[], [.syncFailed reason]⟩
  | .ok reply =>
    match reply.error with
    | some error => .ok ⟨[], [.syncError error]⟩
    | none => do
      let syncResult ← reply.fields
      let okChannels ← syncResult.okChannels.toSet
      let onChannels ← syncResult.onChannels.toSet
      let offChannels ← syncResult.offChannels.toSet
      let badChannels ← syncResult.badChannels.toSet
      let okOnChannels := sortedSet (okChannels.filter (· ∈ onChannels))
      let okOffChannels := sortedSet (okChannels.filter (· ∈ offChannels))
      let notes := noteIf .badExcluded (hvToUserChannels (sortedSet badChannels))
      if okChannels = [] then return ⟨[], notes ++ [.noOkChannels]⟩
      else if okOffChannels = [] then return concluded okOnChannels notes
      else
        match ← switchOn okOffChannels onAndWait with
        | (none, onNotes) => return ⟨[], notes ++ onNotes⟩
        | (some successfulOn, onNotes) =>
          return concluded (sortedSet (okOnChannels ++ successfulOn)) (notes ++ onNotes)

/-- The clients of a plane. -/
def ServerState.planeClientIds (s : ServerState) : CommandPlane → List ClientId
  | .control => s.controlClientIds
  | .acquisition => s.acquisitionClientIds
  | .monitoring => s.monitoringClientIds

/-- `prepare_hv_channels_for_acquisition`, for what each client answers to the two commands. -/
def prepareHvChannelsForAcquisition (s : ServerState) (plane : CommandPlane)
    (targetClientIds : Option (List ClientId)) (sync : ClientId → HvAnswer)
    (onAndWait : ClientId → List Int → HvAnswer) : Except Unit (Dict ClientId ChannelSelection) :=
  let clientIds := match targetClientIds with
    | none => s.planeClientIds plane
    | some targets => (s.planeClientIds plane).filter (· ∈ targets)
  Dict.setEach (fun cid => (prepareClient (sync cid) (onAndWait cid)).map (cid, ·)) clientIds .empty

end MultiDAQ.Server
