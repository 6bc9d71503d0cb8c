import MultiDAQ.Client.SafeStateThread
import MultiDAQ.Client.Verify.MonitorOnly

/-!
# What is left to be switched on when the safe state has returned

After `enter_safe_state` has returned `True`, a request submitted before can still switch a channel on:
the safe state puts its own requests in front of the queue and leaves the others there, to be served
until they expire. The requests that can still do so (`canPowerOn`) become fewer as the worker and the
clock go on, and only a new one is added. So nothing is switched on for an earlier request if there are
none left when the call returns.
-/

namespace MultiDAQ.Client

open MultiDAQ.Lib

namespace HvThreads

variable {s : HvThreads} {clock : Rat} {item : HvQueued}

/-- The requests that can still switch a channel on: the worker executes it, or it has not expired
before the worker looks at its deadline. -/
def canPowerOn (s : HvThreads) (clock : Rat) : List HvQueued :=
  let waiting := match s.worker with
    | .taken item => item :: s.inputQueue
    | _ => s.inputQueue
  let executing := match s.worker with
    | .executing item => [item]
    | _ => []
  (waiting.filter (fun item => clock ≤ item.deadline) ++ executing).filter
    fun item => item.request.needsFullControl

theorem mem_canPowerOn : item ∈ s.canPowerOn clock ↔ item.request.needsFullControl = true ∧
    ((item ∈ s.inputQueue ∨ s.worker = .taken item) ∧ clock ≤ item.deadline ∨
      s.worker = .executing item) := by
  unfold canPowerOn
  cases hw : s.worker with
  | taken taken =>
    simp only [List.append_nil, List.mem_filter, List.mem_cons, decide_eq_true_eq,
      HvWorker.taken.injEq, reduceCtorEq, or_false, eq_comm (a := taken)]
    tauto
  | executing executing =>
    simp only [List.mem_filter, List.mem_append, List.mem_singleton, decide_eq_true_eq,
      HvWorker.executing.injEq, reduceCtorEq, or_false, eq_comm (a := executing)]
    tauto
  | _ =>
    simp only [List.append_nil, List.mem_filter, decide_eq_true_eq, reduceCtorEq, or_false]
    tauto

/-! ## The queue -/

/-- What a step of a thread other than the worker does to the queue. -/
theorem queue_step {a : HvAction} (ha : ∀ now bus, a ≠ .next now bus) :
    ((s.step a).1.inputQueue = s.inputQueue ∧ (s.step a).1.counter = s.counter) ∨
      ∃ priority request deadline,
        (s.step a).1.inputQueue = (s.put priority request deadline).inputQueue ∧
          (s.step a).1.counter = s.counter + 1 := by
  cases a with
  | submit priority request deadline => exact .inr ⟨priority, request.1, deadline, rfl, rfl⟩
  | safetyCheck now channels =>
    dsimp only [step, safetyCheck]
    split
    · exact .inr ⟨_, _, _, rfl, rfl⟩
    · exact .inl ⟨rfl, rfl⟩
  | powerCheck now channels =>
    dsimp only [step, powerCheck]
    split
    · exact .inr ⟨_, _, _, rfl, rfl⟩
    · exact .inl ⟨rfl, rfl⟩
  | recoveryCheck now channels =>
    dsimp only [step, recoveryCheck]
    split
    · exact .inr ⟨_, _, _, rfl, rfl⟩
    · exact .inl ⟨rfl, rfl⟩
  | acquisitionCheck now channels acqInfo =>
    dsimp only [step, acquisitionCheck]
    split
    · split
      · exact .inl ⟨rfl, rfl⟩
      · exact .inr ⟨_, _, _, rfl, rfl⟩
    · exact .inl ⟨rfl, rfl⟩
  | next now bus => exact absurd rfl (ha now bus)
  | _ => exact .inl ⟨rfl, rfl⟩

theorem mem_inputQueue_put {priority : HvMessagePriority} {request : HvRequest} {deadline : Rat} :
    item ∈ (s.put priority request deadline).inputQueue ↔
      item = ⟨priority, s.counter, request, deadline⟩ ∨ item ∈ s.inputQueue :=
  List.mem_orderedInsert _

theorem counter_next (now : Rat) (bus : HvBus) : (s.next now bus).1.counter = s.counter := by
  unfold next
  split
  next => split <;> rfl
  next =>
    split
    · rfl
    · split <;> rfl
  next => split <;> rfl
  next => rfl
  next => rfl

/-! ## The requests that can still switch a channel on -/

/-- The worker adds none: it looks at the deadline of the request it has taken. -/
theorem canPowerOn_next {bus : HvBus} (h : item ∈ (s.next clock bus).1.canPowerOn clock) :
    item ∈ s.canPowerOn clock := by
  obtain ⟨hneeds, hplace⟩ := mem_canPowerOn.1 h
  refine mem_canPowerOn.2 ⟨hneeds, ?_⟩
  unfold next at hplace
  split at hplace
  next hw =>
    split at hplace
    next => exact hplace
    next first rest hq =>
      rcases hplace with ⟨hmem, hlater⟩ | hexecuting
      · refine .inl ⟨.inl ?_, hlater⟩
        rw [hq]
        rcases hmem with hmem | htaken
        · exact List.mem_cons_of_mem _ hmem
        · exact HvWorker.taken.inj htaken ▸ List.mem_cons_self
      · cases hexecuting
  next taken hw =>
    split at hplace
    next =>
      simp only [reduceCtorEq, or_false] at hplace
      exact .inl ⟨.inl hplace.1, hplace.2⟩
    next hdeadline =>
      split at hplace
      next =>
        rcases hplace with ⟨hmem | htaken, hlater⟩ | hexecuting
        · exact .inl ⟨.inl hmem, hlater⟩
        · cases htaken
        · obtain rfl := HvWorker.executing.inj hexecuting
          exact .inl ⟨.inr hw, not_lt.1 hdeadline⟩
      next =>
        simp only [reduceCtorEq, or_false] at hplace
        exact .inl ⟨.inl hplace.1, hplace.2⟩
  next asked hw =>
    split at hplace
    next hallowed =>
      rcases hplace with ⟨hmem | htaken, hlater⟩ | hexecuting
      · exact .inl ⟨.inl hmem, hlater⟩
      · cases htaken
      · obtain rfl := HvWorker.executing.inj hexecuting
        have hfree : asked.request.needsFullControl = false := by
          simpa [HvPolicy.allows] using hallowed.2
        rw [hfree] at hneeds
        cases hneeds
    next =>
      simp only [reduceCtorEq, or_false] at hplace
      exact .inl ⟨.inl hplace.1, hplace.2⟩
  next =>
    simp only [reduceCtorEq, or_false] at hplace
    exact .inl ⟨.inl hplace.1, hplace.2⟩
  next =>
    simp only [close, reduceCtorEq, or_false] at hplace
    exact .inl ⟨.inl hplace.1, hplace.2⟩

theorem canPowerOn_put (priority : HvMessagePriority) (request : HvRequest) (deadline : Rat)
    (h : item ∈ (s.put priority request deadline).canPowerOn clock) :
    item ∈ s.canPowerOn clock ∨ item.counter = s.counter := by
  obtain ⟨hneeds, hplace⟩ := mem_canPowerOn.1 h
  rcases hplace with ⟨hmem | htaken, hlater⟩ | hexecuting
  · rcases mem_inputQueue_put.1 hmem with rfl | hmem
    · exact .inr rfl
    · exact .inl (mem_canPowerOn.2 ⟨hneeds, .inl ⟨.inl hmem, hlater⟩⟩)
  · exact .inl (mem_canPowerOn.2 ⟨hneeds, .inl ⟨.inr htaken, hlater⟩⟩)
  · exact .inl (mem_canPowerOn.2 ⟨hneeds, .inr hexecuting⟩)

/-- A step adds at most the request that it puts in the queue. -/
theorem canPowerOn_step {a : HvAction} (h : item ∈ (s.step (a.atTime clock)).1.canPowerOn clock) :
    item ∈ s.canPowerOn clock ∨ item.counter = s.counter := by
  by_cases ha : ∃ now bus, a = .next now bus
  · obtain ⟨now, bus, rfl⟩ := ha
    exact .inl (canPowerOn_next h)
  · have hother : ∀ now bus, a.atTime clock ≠ .next now bus := by
      intro now bus hnext
      cases a with
      | next => exact ha ⟨_, _, rfl⟩
      | _ => cases hnext
    have hworker := worker_check (s := s) _ hother
    rcases queue_step (s := s) hother with ⟨hqueue, -⟩ | ⟨priority, request, deadline, hqueue, -⟩
    · refine .inl (mem_canPowerOn.2 ?_)
      rw [← hqueue, ← hworker]
      exact mem_canPowerOn.1 h
    · refine canPowerOn_put priority request deadline (mem_canPowerOn.2 ?_)
      rw [← hqueue]
      show _ ∧ ((_ ∨ s.worker = _) ∧ _ ∨ s.worker = _)
      rw [← hworker]
      exact mem_canPowerOn.1 h

theorem counter_le_step (a : HvAction) : s.counter ≤ (s.step a).1.counter := by
  by_cases ha : ∃ now bus, a = .next now bus
  · obtain ⟨now, bus, rfl⟩ := ha
    exact (counter_next now bus).ge
  · rcases queue_step (s := s) fun now bus heq => ha ⟨now, bus, heq⟩ with
      ⟨-, hcounter⟩ | ⟨_, _, _, -, hcounter⟩
    · exact hcounter.ge
    · exact hcounter ▸ Nat.le_succ _

end HvThreads

namespace ClientThreads

variable {s : ClientThreads} {a : ClientAction}

/-! ## The calls made for a request -/

/-- The request that the worker executes in this step. -/
def executed (s : ClientThreads) : ClientAction → Option HvQueued
  | .hv (.next ..) =>
    match s.hv.worker with
    | .executing item => some item
    | _ => none
  | _ => none

structure SafeStateLog where
  /-- The counter of the service when a call of `enter_safe_state` last returned `True`: the requests
  that were submitted before have smaller ones. -/
  returned : Nat := 0
  /-- The calls made since then for a request that was submitted before. -/
  late : List HvCall := []

/-- The log after a step. -/
def SafeStateLog.record (log : SafeStateLog) (s : ClientThreads) (a : ClientAction) :
    SafeStateLog where
  returned := if (s.step a).2.returned = some true then s.hv.counter else log.returned
  late :=
    match s.executed a with
    | some item => if item.counter < log.returned then log.late ++ (s.step a).2.calls else log.late
    | none => log.late

/-- A step with the log kept beside it. -/
def watch (x : ClientThreads × SafeStateLog) (a : ClientAction) : ClientThreads × SafeStateLog :=
  ((x.1.step a).1, x.2.record x.1 a)

/-- When a call of `enter_safe_state` returns `True`, no request is left that can still switch a
channel on. -/
def ReturnsWithNoneLeft (x : ClientThreads × SafeStateLog) (a : ClientAction) : Prop :=
  (x.1.step a).2.returned = some true → x.1.hv.canPowerOn x.1.clock = []

instance (x : ClientThreads × SafeStateLog) (a : ClientAction) :
    Decidable (ReturnsWithNoneLeft x a) :=
  inferInstanceAs (Decidable (_ → _))

/-- The requests submitted before the return can switch nothing on any more, and have not since. -/
structure Final (s : ClientThreads) (log : SafeStateLog) : Prop where
  returned_le : log.returned ≤ s.hv.counter
  newer : ∀ item ∈ s.hv.canPowerOn s.clock, log.returned ≤ item.counter
  late : ∀ ch, HvCall.powerOn ch ∉ log.late

/-! ## The steps -/

/-- What a step does to the HV service and to the clock. -/
inductive Moves (s s' : ClientThreads) : Prop
  | hv (action : HvAction) (hhv : s'.hv = (s.hv.step (action.atTime s.clock)).1)
      (hclock : s'.clock = s.clock)
  | submits (request : HvRequest) (deadline : Rat)
      (hhv : s'.hv = s.hv.put .emergency request deadline) (hclock : s'.clock = s.clock)
  | waits (hhv : s'.hv = s.hv) (hclock : s.clock ≤ s'.clock)

theorem moves_await : Moves s s.await := by
  unfold await
  split
  next counter wait success hphase =>
    split
    next response hwaited =>
      unfold offAnswered
      split
      · exact .waits rfl le_rfl
      · split
        · exact .waits rfl le_rfl
        · exact .submits _ _ rfl rfl
    next => exact .waits rfl le_rfl
  next =>
    split
    · exact .waits rfl le_rfl
    · exact .waits rfl le_rfl
  next => exact .waits rfl le_rfl

theorem moves_step (a : ClientAction) : Moves s (s.step a).1 := by
  cases a with
  | elapse time =>
    refine .waits rfl (le_add_of_nonneg_right ?_)
    exact_mod_cast time.2
  | hv action => exact .hv action rfl rfl
  | enterSafeState =>
    dsimp only [step]
    split <;> exact .waits rfl le_rfl
  | prepare success =>
    dsimp only [step]
    split
    · exact .submits _ _ rfl rfl
    · exact .waits rfl le_rfl
  | await => exact moves_await
  | finish success =>
    dsimp only [step]
    split <;> exact .waits rfl le_rfl

theorem Moves.counter_le {s' : ClientThreads} (h : Moves s s') : s.hv.counter ≤ s'.hv.counter := by
  cases h with
  | hv action hhv => exact hhv ▸ HvThreads.counter_le_step _
  | submits request deadline hhv => exact hhv ▸ Nat.le_succ _
  | waits hhv => exact hhv ▸ le_rfl

/-- Time takes requests away, and a step adds at most the one it puts in the queue. -/
theorem Moves.canPowerOn {s' : ClientThreads} (h : Moves s s') {item : HvQueued}
    (hitem : item ∈ s'.hv.canPowerOn s'.clock) :
    item ∈ s.hv.canPowerOn s.clock ∨ item.counter = s.hv.counter := by
  cases h with
  | hv action hhv hclock =>
    rw [hhv, hclock] at hitem
    exact HvThreads.canPowerOn_step hitem
  | submits request deadline hhv hclock =>
    rw [hhv, hclock] at hitem
    exact HvThreads.canPowerOn_put _ _ _ hitem
  | waits hhv hclock =>
    rw [hhv] at hitem
    obtain ⟨hneeds, hplace⟩ := HvThreads.mem_canPowerOn.1 hitem
    refine .inl (HvThreads.mem_canPowerOn.2 ⟨hneeds, hplace.imp_left fun h => ?_⟩)
    exact ⟨h.1, hclock.trans h.2⟩

/-- A command that does not switch channels on writes no power-on. -/
theorem calls_of_executed {item : HvQueued} (h : s.executed a = some item)
    (hneeds : item.request.needsFullControl = false) :
    ∀ ch, HvCall.powerOn ch ∉ (s.step a).2.calls := by
  unfold executed at h
  split at h
  next now bus =>
    split at h
    next executing hw =>
      obtain rfl := Option.some.inj h
      refine HvThreads.quiet_step (fun other hother => ?_) _
      obtain rfl := HvWorker.executing.inj (hw.symm.trans hother)
      exact hneeds
    next => cases h
  next => cases h

theorem worker_of_executed {item : HvQueued} (h : s.executed a = some item) :
    s.hv.worker = .executing item := by
  unfold executed at h
  split at h
  · split at h
    next executing hw => exact hw.trans (congrArg _ (Option.some.inj h))
    next => cases h
  · cases h

/-- One step keeps the requests submitted before the last return from switching anything on, if none
that could is left at a return. -/
theorem Final.step {log : SafeStateLog} (h : Final s log) (hnone : ReturnsWithNoneLeft (s, log) a) :
    Final (s.step a).1 (log.record s a) := by
  have hmoves := moves_step (s := s) a
  refine ⟨?_, fun item hitem => ?_, fun ch hch => ?_⟩
  · dsimp only [SafeStateLog.record]
    split
    · exact hmoves.counter_le
    · exact h.returned_le.trans hmoves.counter_le
  · dsimp only [SafeStateLog.record]
    rcases hmoves.canPowerOn hitem with hold | hnew
    · split
      next hreturned =>
        rw [hnone hreturned] at hold
        cases hold
      next => exact h.newer item hold
    · rw [hnew]
      split
      · exact le_rfl
      · exact h.returned_le
  · dsimp only [SafeStateLog.record] at hch
    split at hch
    next item hexecuted =>
      split at hch
      next hold =>
        have hneeds : item.request.needsFullControl = false := by
          by_contra hneeds
          refine absurd hold (h.newer item (HvThreads.mem_canPowerOn.2 ⟨?_, ?_⟩)).not_gt
          · exact Bool.eq_true_of_not_eq_false hneeds
          · exact .inr (worker_of_executed hexecuted)
        rcases List.mem_append.1 hch with hch | hch
        · exact h.late ch hch
        · exact calls_of_executed hexecuted hneeds ch hch
      next => exact h.late ch hch
    next => exact h.late ch hch

/-- In a run in which `enter_safe_state` returns `True` only when no request is left that can still
switch a channel on, nothing is ever switched on for a request that was submitted before. -/
theorem nothing_switched_on_after_return (service : HvService) (acqMode : Option AcqMode)
    (as : List ClientAction) (h : Meets watch ReturnsWithNoneLeft (started service acqMode, {}) as)
    {pre : List ClientAction} (hpre : pre <+: as) :
    ∀ ch, HvCall.powerOn ch ∉ (run watch (started service acqMode, {}) pre).2.late := by
  have hstart : Final (started service acqMode) {} :=
    ⟨le_rfl, fun _ _ => Nat.zero_le _, fun _ => List.not_mem_nil⟩
  exact (run_invariant_along (I := fun x : ClientThreads × SafeStateLog => Final x.1 x.2)
    (fun x a hx ha => hx.step ha) hstart h hpre).late

/-- Every board answers, and its channel is down. -/
def downBus : HvBus where
  answer
    | .getStatus _, _ => .ok (1 : Nat)
    | c, n => HvThreads.willingBus.answer c n
  rounds := fun _ => 3

/-- The client after it has asked for all channels to be switched off, with `hv_on` for channel 3
submitted before. The request of the safe state is served first. -/
def switchedOff : List ClientAction :=
  [.hv (.submit .control ⟨.hvOn (.one 3), rfl⟩ 90), .enterSafeState, .prepare true] ++
    List.replicate 4 (.hv (.next 0 downBus)) ++ [.await]

def allOk : HvService where
  hv := { okCh := [1, 2, 3, 4, 5, 6, 7] }

/-- After 100 seconds the request has expired, and the call returns `True`. -/
theorem nothing_switched_on_after_expiry :
    HvCall.powerOn 3 ∉ (run watch (started allOk none, {}) (switchedOff ++
      [.elapse 100, .finish true] ++ List.replicate 3 (.hv (.next 0 downBus)))).2.late := by
  refine nothing_switched_on_after_return allOk none _ ?_ List.prefix_rfl 3
  decide +kernel

/-- The call returns `True` at once, and channel 3 is switched on. -/
theorem switched_on_after_return :
    (run watch (started allOk none, {}) (switchedOff ++ [.finish true])).2.returned = 2 ∧
      HvCall.powerOn 3 ∈ (run watch (started allOk none, {}) (switchedOff ++
        [.finish true] ++ List.replicate 3 (.hv (.next 0 downBus)))).2.late := by
  decide +kernel

end ClientThreads

end MultiDAQ.Client
