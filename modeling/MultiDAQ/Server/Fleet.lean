import Mathlib.Data.Set.Basic
import Mathlib.Data.Set.Lattice
import Mathlib.Order.CompletePartialOrder
import MultiDAQ.Server.State

/-!
# The abstract server: a fleet of clients driven by one run state

What `ServerState` is for, without the bookkeeping of contexts, times and texts. A fleet has a run
state, the terminal state a finalization is to end in, the bookkeeping of a configuration, a member
for each registered client (its own state, the planes it is on, whether it takes part in
acquisitions, its MAC address), and the index of the clients by MAC address. An action is what one
operation of the server comes to; `Enabled` is when it can be taken, `after` its effect. The set of
clients an action is about is any set of ids.
-/

namespace MultiDAQ.Server

/-- One registered client. -/
structure Member where
  state : ClientFSM
  onControl : Bool
  onAcquisition : Bool
  onMonitoring : Bool
  operational : Bool
  mac : Option PyValue
  deriving DecidableEq, Repr

/-- On the control and on the acquisition plane. -/
def Member.onCommon (m : Member) : Prop := m.onControl = true ∧ m.onAcquisition = true

/-- What a finalization that ends in `terminal` makes of an operational client. -/
def Member.finalized (terminal : ServerFSM) (m : Member) : Member :=
  match terminal with
  | .ready => { m with state := .ready }
  | .controlConnected =>
    { m with operational := false, state := if m.onControl then .connected else .disconnected }
  | .disconnected => { m with operational := false, state := .disconnected }
  | .connected => { m with operational := false, state := .connected }
  | .error => { m with operational := false, state := .error }
  | _ => m

/-- The member a newly registered client starts as. -/
def Member.new : Member where
  state := .connected
  onControl := true
  onAcquisition := false
  onMonitoring := false
  operational := false
  mac := none

/-- A registration over an earlier one: an identity that is given replaces the stored one. -/
def Member.admitted (m : Member) (identity : Option (Option PyValue)) : Member :=
  { m with onControl := true, mac := identity.getD m.mac }

/-- The MAC address under which an identity is indexed; a falsy one is not. -/
def indexedMac (identity : Option (Option PyValue)) : Option String :=
  (identity.getD none).bind fun mac => if mac.truthy then some mac.text else none

structure Fleet (ι : Type) where
  runState : ServerFSM
  pending : Option ServerFSM
  source : Option ServerFSM
  isPartial : Bool
  member : ι → Option Member
  index : String → Option ι

namespace Fleet

variable {ι : Type}

/-- What one operation of the server comes to. -/
inductive Act (ι : Type)
  /-- Nothing changes: a rejected event, or an update outside of the abstract state. -/
  | idle
  /-- An event that changes the run state only. -/
  | move (event : ServerFSMEvent) (next : ServerFSM)
  /-- A rejected `CONFIGURATION_STARTED` that has recorded its source. -/
  | noteSource
  | configure (targets : Set ι) (isPartial : Bool)
  | configured (successful failed : Set ι)
  | configurationFailed
  | acquire (active : Set ι)
  | fatal
  | finalize (event : ServerFSMEvent) (terminal : ServerFSM)
  | finalized
  | clientEvent (i : ι) (event : ClientFSMEvent)
  | reset
  | clearPending
  | enlist (i : ι) (identity : Option (Option PyValue))
  | forget (i : ι)
  | joinAcquisition (i : ι)
  | leaveAcquisition (i : ι)
  | clearAcquisition
  | joinMonitoring (i : ι)
  | leaveMonitoring (i : ι)
  | clearMonitoring
  | setOperational (ids : Set ι)
  | dropOperational (i : ι)
  | clearOperational

/-- The clients in a state. -/
def inState (f : Fleet ι) (state : ClientFSM) : Set ι :=
  { i | ∃ m, f.member i = some m ∧ m.state = state }

/-- The clients on the control and on the acquisition plane. -/
def common (f : Fleet ι) : Set ι := { i | ∃ m, f.member i = some m ∧ m.onCommon }

/-- The clients that take part in acquisitions. -/
def operational (f : Fleet ι) : Set ι :=
  { i | ∃ m, f.member i = some m ∧ m.operational = true }

/-- When an action can be taken. -/
def Enabled (f : Fleet ι) : Act ι → Prop
  | .move event next => transitionTable f.runState event = some next ∧ next ≠ .finalizing ∧
      event ≠ .configurationStarted ∧ event ≠ .configurationSucceeded ∧
      event ≠ .configurationFailed ∧ event ≠ .acquisitionStarted ∧ event ≠ .fatalError ∧
      event ≠ .finalizationSucceeded ∧ event ≠ .finalizationFailed
  | .noteSource => f.runState = .connected ∨ f.runState = .ready
  | .configure targets _ => (f.runState = .connected ∨ f.runState = .ready) ∧
      targets.Nonempty ∧ targets ⊆ f.common
  | .configured successful failed => f.runState = .configuring ∧ successful.Nonempty ∧
      Disjoint successful failed ∧ successful ∪ failed = f.inState .configuring ∧
      successful ⊆ f.common
  | .configurationFailed => f.runState = .configuring
  | .acquire active => f.runState = .ready ∧ active.Nonempty ∧ active ⊆ f.operational ∧
      active ⊆ f.inState .ready
  | .finalize event _ => transitionTable f.runState event = some .finalizing
  | .finalized => f.runState = .finalizing
  | .clientEvent i event => ∃ m, f.member i = some m ∧
      (transitionTableClient m.state event).isSome
  | .joinAcquisition i => ∃ m, f.member i = some m ∧ m.onControl = true
  | .joinMonitoring i => ∃ m, f.member i = some m ∧ m.onControl = true
  | .setOperational ids => ids ⊆ f.common
  | _ => True

/-- Updates every member. -/
def update (f : Fleet ι) (g : ι → Member → Member) : Fleet ι :=
  { f with member := fun i => (f.member i).map (g i) }

@[simp] theorem update_member (f : Fleet ι) (g : ι → Member → Member) (i : ι) :
    (f.update g).member i = (f.member i).map (g i) := rfl

@[simp] theorem update_runState (f : Fleet ι) (g : ι → Member → Member) :
    (f.update g).runState = f.runState := rfl

@[simp] theorem update_pending (f : Fleet ι) (g : ι → Member → Member) :
    (f.update g).pending = f.pending := rfl

@[simp] theorem update_source (f : Fleet ι) (g : ι → Member → Member) :
    (f.update g).source = f.source := rfl

@[simp] theorem update_isPartial (f : Fleet ι) (g : ι → Member → Member) :
    (f.update g).isPartial = f.isPartial := rfl

@[simp] theorem update_index (f : Fleet ι) (g : ι → Member → Member) :
    (f.update g).index = f.index := rfl

open Classical in
/-- The effect of an action. -/
noncomputable def after [DecidableEq ι] (f : Fleet ι) : Act ι → Fleet ι
  | .idle => f
  | .move _ next => { f with runState := next }
  | .noteSource => { f with source := some f.runState }
  | .configure targets isPartial =>
    { f.update (fun i m => { m with
        operational := if isPartial = true ∧ i ∉ targets then m.operational else false
        state := if i ∈ targets then .configuring else m.state }) with
      runState := .configuring, source := some f.runState, isPartial := isPartial }
  | .configured successful failed =>
    { f.update (fun i m => { m with
        operational :=
          if i ∈ successful then true else if f.isPartial then m.operational else false
        state :=
          if i ∈ failed then .error else if i ∈ successful then .ready else m.state }) with
      runState := .ready, source := none, isPartial := false }
  | .configurationFailed =>
    { f.update (fun _ m => { m with
        operational :=
          if f.isPartial = true ∧ m.state ≠ .configuring then m.operational else false
        state := if m.state = .configuring then .error else m.state }) with
      runState := f.source.getD .connected, source := none, isPartial := false }
  | .acquire active =>
    { f.update (fun i m => { m with
        operational := decide (i ∈ active)
        state := if i ∈ active then .acquiring else m.state }) with
      runState := .acquiring }
  | .fatal =>
    { f.update (fun _ m => { m with
        operational := false, state := if m.operational then .error else m.state }) with
      runState := .error, pending := if f.runState = .finalizing then none else f.pending }
  | .finalize _ terminal =>
    { f.update (fun _ m => { m with
        state := if m.operational then .finalizing else m.state }) with
      runState := .finalizing, pending := some terminal }
  | .finalized =>
    { f.update (fun _ m =>
        if m.operational then m.finalized (f.pending.getD .ready) else m) with
      runState := f.pending.getD .ready, pending := none }
  | .clientEvent i event => f.update fun j m =>
      if j = i then { m with state := (transitionTableClient m.state event).getD m.state } else m
  | .reset => { f.update (fun _ m => { m with operational := false }) with
      runState := .disconnected, pending := none }
  | .clearPending => { f with pending := none }
  | .enlist i identity => { f with
      member := fun j =>
        if j = i then some (((f.member i).getD Member.new).admitted identity) else f.member j
      index := fun mac => if indexedMac identity = some mac then some i else f.index mac }
  | .forget i => { f with
      member := fun j => if j = i then none else f.member j
      index := fun mac =>
        if f.index mac = some i ∧
          ∃ m v, f.member i = some m ∧ m.mac = some v ∧ v.text = mac then none
        else f.index mac }
  | .joinAcquisition i => f.update fun j m => if j = i then { m with onAcquisition := true } else m
  | .leaveAcquisition i => f.update fun j m =>
      if j = i then { m with onAcquisition := false, operational := false } else m
  | .clearAcquisition => f.update fun _ m =>
      if m.onAcquisition then { m with onAcquisition := false, operational := false } else m
  | .joinMonitoring i => f.update fun j m => if j = i then { m with onMonitoring := true } else m
  | .leaveMonitoring i => f.update fun j m =>
      if j = i then { m with onMonitoring := false } else m
  | .clearMonitoring => f.update fun _ m => { m with onMonitoring := false }
  | .setOperational ids => f.update fun i m => { m with operational := decide (i ∈ ids) }
  | .dropOperational i => f.update fun j m => if j = i then { m with operational := false } else m
  | .clearOperational => f.update fun _ m => { m with operational := false }

end Fleet

end MultiDAQ.Server
