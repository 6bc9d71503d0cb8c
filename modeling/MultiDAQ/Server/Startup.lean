import MultiDAQ.Server.Registry

/-!
# The result of a startup configuration

`StartupService.configure_clients`: how a configuration is started, and how its outcome is reported
to the state machine, with the fallback for a result that the state machine refuses. Other threads
change the state while the clients are configured, and between the two reports.
-/

namespace MultiDAQ.Server

open MultiDAQ.Lib

/-- `CONFIGURATION_FAILED`, when no client was configured. -/
def failureReport (mode : String) (failed : List ClientId) (now : Nat) : EventCall where
  event := some .configurationFailed
  reason := some ("Startup configuration for mode '" ++ mode ++ "' failed on all clients")
  source := some "startup_service"
  metadata := { failedClients := .ids (failed.map .bytes) }
  now := now

/-- `CONFIGURATION_SUCCEEDED`, with the clients that were configured and the others. -/
def successReport (mode : String) (successful failed : List ClientId) (now : Nat) : EventCall where
  event := some .configurationSucceeded
  reason := some ("Startup configuration for mode '" ++ mode ++ "' completed")
  source := some "startup_service"
  metadata := {
    successfulClients := .ids (successful.map .bytes), failedClients := .ids (failed.map .bytes) }
  now := now

/-- The bare `CONFIGURATION_FAILED` after a success report that was rejected. -/
def fallbackReport (now : Nat) : EventCall where
  event := some .configurationFailed
  reason := some "Startup configuration result rejected by the FSM"
  source := some "startup_service"
  now := now

/-- The reports of `configure_clients`; `between` is what other threads do before the fallback. -/
def ServerState.reportConfiguration (s : ServerState) (mode : String)
    (successful failed : List ClientId) (between : List ServerOp) (now : Nat) : ServerState :=
  if successful.isEmpty then (s.processEvent (failureReport mode failed now)).2
  else
    let (accepted, reported) := s.processEvent (successReport mode successful failed now)
    if accepted then reported
    else ((reported.runOps between).processEvent (fallbackReport now)).2

/-- `CONFIGURATION_STARTED` for the clients to configure. -/
def startReport (mode : String) (targets : List ClientId) (isPartial : Bool) (now : Nat) :
    EventCall where
  event := some .configurationStarted
  reason := some ("Startup configuration for mode '" ++ mode ++ "'")
  source := some "startup_service"
  metadata := { targetClients := .ids (targets.map .bytes), isPartial := some isPartial }
  now := now

/-- `configure_clients`, for clients with the outcomes of `_sync_one_client`; `during` is what is
done to the state meanwhile. -/
def ServerState.configureClients (s : ServerState) (mode : String)
    (attempts : List (ClientId × Bool)) (isPartial : Bool) (during between : List ServerOp)
    (now : Nat) : ServerState :=
  if attempts.isEmpty then s
  else
    let (started, s₁) := s.processEvent (startReport mode (attempts.map Prod.fst) isPartial now)
    if started then
      (s₁.runOps during).reportConfiguration mode ((attempts.filter fun a => a.2).map Prod.fst)
        ((attempts.filter fun a => !a.2).map Prod.fst) between now
    else s₁

end MultiDAQ.Server
