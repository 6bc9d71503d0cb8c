import MultiDAQ.Client.Verify.CommandRules
import MultiDAQ.Client.HvWorker

/-!
# The policy that never powers a channel on

Under `monitor_only` the worker executes only commands that write no power-on on the line
(`quiet_handle`). A request that was allowed before the policy was set may still power channels on:
it is the one the worker was executing then. Once it has ended, the line stays free of power-ons
until another policy is set, whatever is in the queue.
-/

namespace MultiDAQ.Client

open MultiDAQ.Lib MultiDAQ.Lib.Interaction

/-- No power-on has been written. -/
def Quiet (w : World HvLists HvCall) : Prop := ∀ ch, HvCall.powerOn ch ∉ w.calls

section Keeping

variable {bus : HvBus} {ch : Int} {α : Type}

/-- Only a power-on breaks it. -/
theorem respected_quiet : Respected (fun _ => True) Quiet where
  issue hc h ch hmem := by
    rcases List.mem_append.1 hmem with hmem | hmem
    · exact h ch hmem
    · exact hc ch (List.mem_singleton.1 hmem).symm
  moveToOk _ h := h
  moveToBad _ h := h
  moveToOn h := h
  moveToOff h := h
  ok _ _ _ := trivial
  bad _ _ _ := trivial

theorem quiet_modify (f : HvLists → HvLists) : Keeps bus Quiet (modify f) :=
  keeps_modify fun _ h => h

/-- A command that does not need full control writes no power-on, whatever the boards answer. -/
theorem quiet_handle {request : HvRequest} (h : request.needsFullControl = false) :
    Keeps bus Quiet (HV.handle request) :=
  respected_quiet.handle ⟨fun _ h => h, fun _ h => h, fun _ h => h⟩ (fun _ _ => trivial)
    fun hneeds => absurd hneeds (by simp [h])

/-- What is left to an invariant when the program returns or raises. -/
theorem quiet_calls {p : HvM α} (hp : Keeps bus Quiet p) (lists : HvLists) :
    ∀ ch, HvCall.powerOn ch ∉ (p bus { state := lists }).2.calls := by
  have hend := hp { state := lists } fun _ => List.not_mem_nil
  rcases hr : p bus { state := lists } with ⟨e | a, w⟩
  · rw [hr] at hend
    exact hend
  · rw [hr] at hend
    exact hend

end Keeping

namespace HvThreads

variable {s : HvThreads}

/-! ## The worker -/

/-- The policy is `monitor_only`, and the command that the worker executes, if it has one, is allowed
under it or is the one of `old`. -/
structure Monitoring (old : HvWorker) (s : HvThreads) : Prop where
  policy : s.service.hvPolicy = .monitorOnly
  allowed : ∀ item, s.worker = .executing item →
    item.request.needsFullControl = false ∨ old = .executing item

/-- No step sets a policy other than `monitor_only`. -/
def SetsMonitorOnly : HvAction → Prop
  | .setPolicy hvPolicy => hvPolicy = .monitorOnly
  | _ => True

theorem service_next (now : Rat) (bus : HvBus) :
    (s.next now bus).1.service.hvPolicy = s.service.hvPolicy := by
  unfold next
  split
  next => split <;> rfl
  next =>
    split
    · rfl
    · split <;> rfl
  next => split <;> rfl
  next => rfl
  next => rfl

/-- Under `monitor_only` a command that begins to be executed is one that does not need full
control. -/
theorem executing_next {now : Rat} {bus : HvBus} {item : HvQueued}
    (hp : s.service.hvPolicy = .monitorOnly) (h : (s.next now bus).1.worker = .executing item) :
    item.request.needsFullControl = false := by
  unfold next at h
  split at h
  next hw =>
    split at h
    · rw [hw] at h
      cases h
    · cases h
  next =>
    rw [hp] at h
    split at h <;> cases h
  next asked hw =>
    split at h
    next hallowed =>
      obtain rfl := HvWorker.executing.inj h
      simpa [HvPolicy.allows] using hallowed.2
    next => cases h
  next => cases h
  next => cases h

theorem worker_check (a : HvAction) (ha : ∀ now bus, a ≠ .next now bus) :
    (s.step a).1.worker = s.worker := by
  cases a with
  | safetyCheck now channels =>
    show (s.safetyCheck now channels).worker = s.worker
    unfold safetyCheck
    split <;> rfl
  | powerCheck now channels =>
    show (s.powerCheck now channels).worker = s.worker
    unfold powerCheck
    split <;> rfl
  | recoveryCheck now channels =>
    show (s.recoveryCheck now channels).worker = s.worker
    unfold recoveryCheck
    split <;> rfl
  | acquisitionCheck now channels acqInfo =>
    show (s.acquisitionCheck now channels acqInfo).worker = s.worker
    unfold acquisitionCheck
    split
    · split <;> rfl
    · rfl
  | next now bus => exact absurd rfl (ha now bus)
  | _ => rfl

theorem policy_step (hp : s.service.hvPolicy = .monitorOnly) {a : HvAction}
    (ha : SetsMonitorOnly a) : (s.step a).1.service.hvPolicy = .monitorOnly := by
  cases a with
  | safetyCheck now channels =>
    show (s.safetyCheck now channels).service.hvPolicy = _
    unfold safetyCheck
    split <;> exact hp
  | powerCheck now channels =>
    show (s.powerCheck now channels).service.hvPolicy = _
    unfold powerCheck
    split <;> exact hp
  | recoveryCheck now channels =>
    show (s.recoveryCheck now channels).service.hvPolicy = _
    unfold recoveryCheck
    split <;> exact hp
  | acquisitionCheck now channels acqInfo =>
    show (s.acquisitionCheck now channels acqInfo).service.hvPolicy = _
    unfold acquisitionCheck
    split
    · split <;> exact hp
    · exact hp
  | next now bus => exact (service_next now bus).trans hp
  | setPolicy hvPolicy => exact ha
  | _ => exact hp

theorem Monitoring.step {old : HvWorker} (h : Monitoring old s) {a : HvAction}
    (ha : SetsMonitorOnly a) : Monitoring old (s.step a).1 := by
  refine ⟨policy_step h.policy ha, fun item hw => ?_⟩
  cases a with
  | next now bus => exact .inl (executing_next h.policy hw)
  | _ => exact h.allowed item ((worker_check _ fun _ _ hne => by cases hne).symm.trans hw)

/-- A step makes no power-on if the worker does not execute a command that needs full control. -/
theorem quiet_step (h : ∀ item, s.worker = .executing item → item.request.needsFullControl = false)
    (a : HvAction) : ∀ ch, HvCall.powerOn ch ∉ (s.step a).2 := by
  cases a with
  | setFixedBadChannels channels bus =>
    refine quiet_calls (keeps_bind (keeps_read id) fun lists => ?_) s.service.hv
    split
    · exact quiet_modify _
    · exact keeps_raise _
  | checkMissingSerial bus =>
    exact quiet_calls (keeps_bind (keeps_read _) fun _ =>
      keeps_bind (respected_quiet.checkMissingSerial fun _ _ => quiet_modify _) fun _ => keeps_pure ()) s.service.hv
  | next now bus =>
    show ∀ ch, HvCall.powerOn ch ∉ (s.next now bus).2
    unfold next
    split
    next => split <;> exact fun _ => List.not_mem_nil
    next =>
      split
      · exact fun _ => List.not_mem_nil
      · split <;> exact fun _ => List.not_mem_nil
    next => split <;> exact fun _ => List.not_mem_nil
    next item hw =>
      exact quiet_calls (keeps_try (quiet_handle (h item hw)) fun _ => keeps_pure _) s.service.hv
    next => exact fun _ => List.not_mem_nil
  | _ => exact fun _ => List.not_mem_nil

theorem Monitoring.run {old : HvWorker} (h : Monitoring old s) {as : List HvAction}
    (has : ∀ a ∈ as, SetsMonitorOnly a) : Monitoring old (finalState HvThreads.step s as) :=
  run_invariant (I := Monitoring old) (C := fun _ a => SetsMonitorOnly a)
    (fun _ _ h ha => h.step ha) h (meets_of_forall has _)

/-- Once the command of `old` has ended, the commands that are executed are allowed. -/
theorem Monitoring.ended {old : HvWorker} (h : Monitoring old s)
    (hended : ∀ item, old = .executing item → s.worker ≠ .executing item) :
    Monitoring .waiting s where
  policy := h.policy
  allowed := fun item hw => .inl <| by
    rcases h.allowed item hw with hallowed | hold
    · exact hallowed
    · exact absurd hw (hended item hold)

/-- After `set_policy(monitor_only)`, and after the end of the request that was executing then, no
step writes a power-on, as long as no other policy is set. -/
theorem monitorOnly_never_powersOn (s : HvThreads) (before after : List HvAction)
    (hbefore : ∀ a ∈ before, SetsMonitorOnly a) (hafter : ∀ a ∈ after, SetsMonitorOnly a)
    (hended : ∀ item, s.worker = .executing item →
      (finalState step (s.step (.setPolicy .monitorOnly)).1 before).worker ≠ .executing item) :
    ∀ calls ∈ outputs step (finalState step (s.step (.setPolicy .monitorOnly)).1 before) after,
      ∀ ch, HvCall.powerOn ch ∉ calls := by
  have hset : Monitoring s.worker (s.step (.setPolicy .monitorOnly)).1 :=
    ⟨rfl, fun _ hw => .inr hw⟩
  have hquiet : Monitoring .waiting
      (finalState step (s.step (.setPolicy .monitorOnly)).1 before) :=
    (hset.run hbefore).ended hended
  refine (outputs_invariant (C := SetsMonitorOnly)
    (I := fun s out => Monitoring .waiting s ∧ ∀ calls ∈ out, ∀ ch, HvCall.powerOn ch ∉ calls)
    (fun s out a h ha => ?_) ⟨hquiet, List.forall_mem_nil _⟩ hafter).2
  refine ⟨h.1.step ha, fun calls hcalls => ?_⟩
  rcases List.mem_append.1 hcalls with hcalls | hcalls
  · exact h.2 calls hcalls
  · rw [List.mem_singleton.1 hcalls]
    exact quiet_step (fun item hw => (h.1.allowed item hw).resolve_right nofun) a

/-- Two requests to switch channel 3 on, of which the worker has begun to execute the first. -/
def twoPowerOns : HvThreads where
  service := { hv := { okCh := [3] } }
  inputQueue := [⟨.control, 1, .hvOn (.one 3), 35⟩]
  counter := 2
  worker := .executing ⟨.control, 0, .hvOn (.one 3), 35⟩

/-- Every board answers. -/
def willingBus : HvBus where
  answer
    | .getStatus _, _ | .getAlarm _, _ | .getTemperature _, _ | .getVoltageSet _, _
    | .getThreshold _, _ => .ok (0 : Nat)
    | .getVoltage _, _ | .getCurrent _, _ => .ok (0 : Int)
    | .getInfo _, _ => .ok ""
    | .resetConnection, _ | .readAddress _, _ | .setVoltageSet .., _ | .setThreshold .., _
    | .setModbusAddress .., _ | .setPMTSerialNumber .., _ | .powerOn _, _ | .powerOff _, _
    | .reset _, _ => .ok ()
  rounds := fun _ => 0

/-- The first request still powers the channel on. The second one is not allowed any more. -/
theorem monitorOnly_second_blocked :
    outputs step (twoPowerOns.step (.setPolicy .monitorOnly)).1
        [.next 1 willingBus, .next 1 willingBus] = [[.powerOn 3], []] ∧
      ∀ calls ∈ outputs step (finalState step (twoPowerOns.step (.setPolicy .monitorOnly)).1
          [.next 1 willingBus, .next 1 willingBus])
            [.next 2 willingBus, .next 2 willingBus, .next 2 willingBus, .next 2 willingBus],
        ∀ ch, HvCall.powerOn ch ∉ calls := by
  refine ⟨by decide +kernel, monitorOnly_never_powersOn twoPowerOns _ _ ?_ ?_ fun item _ => ?_⟩
  · simp [SetsMonitorOnly]
  · simp [SetsMonitorOnly]
  · have hw : (finalState step (twoPowerOns.step (.setPolicy .monitorOnly)).1
        [.next 1 willingBus, .next 1 willingBus]).worker = .waiting := by decide +kernel
    rw [hw]
    exact nofun

end HvThreads

end MultiDAQ.Client
