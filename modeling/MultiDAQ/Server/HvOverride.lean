import MultiDAQ.Client.HvCommands

/-!
# The HV override of a run

`AcquisitionService.apply_hv_override` and `restore_hv_override`
(`server/services/acquisition_service.py`), together with the client that executes the command they
send and answers it. Channels are numbered from 0 on the server, and from 1 by the HV interface.
-/

namespace MultiDAQ.Server

open MultiDAQ.Lib MultiDAQ.Lib.Interaction MultiDAQ.Client

/-- What `apply_hv_override` returns, and the values it notes for the client
(`set_client_hv_parameters`). -/
structure HvOutcome where
  configured : List Int
  previous : Dict Int SetPoints
  applied : Dict Int SetPoints

/-- `normalize_user_channels` of the keys of a dictionary, nothing where it raises. -/
def normalizeUserChannels (channels : List Int) : Option (List Int) :=
  if channels = [] ∨ ∃ ch ∈ channels, ch < 0 ∨ 7 ≤ ch then none else some channels

/-- `to_user`. -/
def toUser (values : Dict Int SetPoints) : Dict Int SetPoints :=
  HV.dictOf (values.entries.map fun e => (e.1 - 1, e.2))

/-- The reply of the client; `none` if it has no HV service. -/
def hvReply (hvPolicy : Option HvPolicy) (acqInfo : Dict Int HV.ChannelConfig) (waitRamp : Bool)
    (channels : List Int) : HvM HvResponse :=
  match hvPolicy with
  | none => pure { status := .error, error := some "HVService unavailable" }
  | some policy => HvService.executeResponse policy
    (.setAcquisitionConfiguration (.list (channels.map (· + 1))) acqInfo waitRamp)

namespace HvOutcome

/-- The values from before the override, of the configured channels that it changed. -/
def changedPrevious (configured : List Int) (previous applied : Dict Int SetPoints) :
    Dict Int SetPoints :=
  HV.dictOf (previous.entries.filter fun e => e.1 ∈ configured ∧ applied.get? e.1 ≠ some e.2)

/-- What `apply_hv_override` makes of the result of the client. -/
def ofResult (result : HvResult) : HvOutcome :=
  let configured := sorted (result.successfulChannels.map (· - 1))
  match result.data with
  | .acquisition previous applied => {
    configured := configured
    previous := changedPrevious configured (toUser previous) (toUser applied)
    applied := toUser applied }
  | _ => { configured := configured, previous := Dict.empty, applied := Dict.empty }

end HvOutcome

/-- `apply_hv_override`. -/
def applyHvOverride (hvPolicy : Option HvPolicy) (acqInfo : Dict Int HV.ChannelConfig)
    (waitRamp : Bool) : HvM (Option HvOutcome) :=
  match normalizeUserChannels acqInfo.keys with
  | none => pure none
  | some channels => do
    let response ← hvReply hvPolicy acqInfo waitRamp channels
    -- one failing channel makes the reply an error, but the others were set
    if response.status ≠ .ok ∧ response.result.requestedChannels = [] then pure none
    else pure (some (HvOutcome.ofResult response.result))

/-- An entry of the override that puts the values of a channel back. -/
def restoreConfig (values : SetPoints) : HV.ChannelConfig :=
  { voltage := some values.voltage, threshold := some values.threshold }

/-- `restore_hv_override`: the channels that were restored, and the ones that were not. -/
def restoreHvOverride (hvPolicy : Option HvPolicy) (previous : Dict Int SetPoints) :
    HvM (List Int × List Int) :=
  if previous.entries = [] then pure ([], [])
  else do
    let outcome ← applyHvOverride hvPolicy (previous.mapVals fun _ => restoreConfig) true
    let restored := (outcome.map HvOutcome.configured).getD []
    pure (restored, sorted (previous.keys.filter (· ∉ restored)))

/-- The override of a run, and the restore with the values that it returned. -/
def overrideAndRestore (hvPolicy : Option HvPolicy) (acqInfo : Dict Int HV.ChannelConfig)
    (waitRamp : Bool) : HvM (Option HvOutcome) := do
  let outcome ← applyHvOverride hvPolicy acqInfo waitRamp
  match outcome with
  | none => pure none
  | some o =>
    let _ ← restoreHvOverride hvPolicy o.previous
    pure (some o)

end MultiDAQ.Server
