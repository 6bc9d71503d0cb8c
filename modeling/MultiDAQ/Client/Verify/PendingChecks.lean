import MultiDAQ.Client.HvWorker

/-!
# The flags of the periodic checks

A flag should be set exactly while one check of its kind is queued or executing (`FlagsExact`). The
`finally` of the worker clears the flag of every kind but the acquisition check, whatever became of
the request. So the flags are exact as long as no acquisition check comes to its end
(`flags_exact_iff`).
-/

namespace MultiDAQ.Client.HvThreads

open MultiDAQ.Lib

variable {s : HvThreads} {kind : CheckKind} {item : HvQueued}

def isCheck (kind : CheckKind) (item : HvQueued) : Bool :=
  decide (item.request.checkKind = some kind)

/-- The requests of a kind that are in the queue or with the worker. -/
def queuedOrExecuting (s : HvThreads) (kind : CheckKind) : Nat :=
  (s.inputQueue ++ s.worker.items).countP (isCheck kind)

/-- Every flag says how many requests of its kind there are: one or none. -/
def FlagsExact (s : HvThreads) : Prop :=
  ∀ kind, s.queuedOrExecuting kind = (s.pending kind).toNat

/-- The step in which the worker is done with an acquisition check. -/
def EndsAcquisitionCheck (s : HvThreads) : HvAction → Prop
  | .next .. => ∃ item, s.worker = .ending item ∧ item.request.checkKind = some .acquisition
  | _ => False

/-! ## The requests -/

theorem queuedOrExecuting_put (priority : HvMessagePriority) (request : HvRequest)
    (deadline : Rat) :
    (s.put priority request deadline).queuedOrExecuting kind =
      s.queuedOrExecuting kind + (decide (request.checkKind = some kind)).toNat := by
  unfold queuedOrExecuting put
  simp only [List.countP_append, (List.perm_orderedInsert _ _ _).countP_eq, List.countP_cons]
  unfold isCheck
  cases decide (request.checkKind = some kind) with
  | false => simp
  | true =>
    simp only [if_true, Bool.toNat_true]
    omega

/-- The worker keeps the request it has until the last step with it. -/
theorem queuedOrExecuting_next (now : Rat) (bus : HvBus) (h : ∀ item, s.worker ≠ .ending item) :
    (s.next now bus).1.queuedOrExecuting kind = s.queuedOrExecuting kind := by
  unfold next
  split
  next hw =>
    split
    next => rfl
    next first rest hq =>
      unfold queuedOrExecuting
      simp only [hw, hq, HvWorker.items, List.countP_append, List.countP_cons, List.countP_nil]
      omega
  next item hw =>
    unfold queuedOrExecuting
    split
    · simp only [hw, HvWorker.items]
    · split <;> simp only [hw, HvWorker.items]
  next item hw =>
    unfold queuedOrExecuting
    split <;> simp only [hw, HvWorker.items]
  next item hw =>
    unfold queuedOrExecuting
    simp only [hw, HvWorker.items]
  next item hw => exact absurd hw (h item)

theorem queuedOrExecuting_close (kind : CheckKind) (hw : s.worker = .ending item) :
    s.queuedOrExecuting kind =
      (s.close item).queuedOrExecuting kind + (isCheck kind item).toNat := by
  unfold queuedOrExecuting close
  simp only [hw, HvWorker.items, List.countP_append, List.countP_cons, List.countP_nil]
  cases isCheck kind item <;> simp

theorem step_next_of_ending {now : Rat} {bus : HvBus} (hw : s.worker = .ending item) :
    (s.step (.next now bus)).1 = s.close item := by
  simp only [step, next, hw]

/-! ## The flags -/

theorem pending_next (now : Rat) (bus : HvBus) (h : ∀ item, s.worker ≠ .ending item) :
    (s.next now bus).1.pending = s.pending := by
  unfold next
  split
  next => split <;> rfl
  next =>
    split
    · rfl
    · split <;> rfl
  next => split <;> rfl
  next => rfl
  next item hw => exact absurd hw (h item)

theorem clearedBy_of_acquisition {request : HvRequest}
    (h : request.checkKind = some .acquisition) : clearedBy request = none := by
  cases request with
  | checkChannelAcquisition => rfl
  | _ => cases h

/-- `finally` knows every kind but the acquisition check. -/
theorem clearedBy_of_ne {request : HvRequest} (h : request.checkKind ≠ some .acquisition) :
    clearedBy request = request.checkKind := by
  cases request with
  | checkChannelAcquisition => exact absurd rfl h
  | _ => rfl

theorem pending_close_of_none (h : clearedBy item.request = none) :
    (s.close item).pending = s.pending := by
  simp only [close, h]

theorem pending_close_of_some (h : clearedBy item.request = some kind) :
    (s.close item).pending = Function.update s.pending kind false := by
  simp only [close, h]

theorem FlagsExact.putCheck (h : FlagsExact s) (hp : s.pending kind = false)
    {priority : HvMessagePriority} {request : HvRequest} {deadline : Rat}
    (hr : request.checkKind = some kind) :
    FlagsExact (s.putCheck kind priority request deadline) := by
  intro other
  have hput : (s.putCheck kind priority request deadline).queuedOrExecuting other =
      s.queuedOrExecuting other + (decide (request.checkKind = some other)).toNat :=
    queuedOrExecuting_put priority request deadline
  rw [hput, h other, hr]
  by_cases heq : other = kind
  · subst heq
    simp [HvThreads.putCheck, hp]
  · simp [HvThreads.putCheck, heq, Ne.symm heq]

theorem FlagsExact.submit (h : FlagsExact s) (priority : HvMessagePriority)
    (request : ClientRequest) (deadline : Rat) :
    FlagsExact (s.put priority request.1 deadline) := by
  intro kind
  rw [queuedOrExecuting_put, request.2]
  exact h kind

/-- The last step with a request keeps the flags exact unless the request is an acquisition check:
its flag stays set. -/
theorem flagsExact_close (h : FlagsExact s) (hw : s.worker = .ending item) :
    FlagsExact (s.close item) ↔ item.request.checkKind ≠ some .acquisition := by
  have hcount (kind : CheckKind) := h kind ▸ queuedOrExecuting_close kind hw
  constructor
  · intro hexact hacq
    have hleft := hcount .acquisition
    rw [hexact .acquisition] at hleft
    rw [pending_close_of_none (clearedBy_of_acquisition hacq)] at hleft
    simp [isCheck, hacq] at hleft
  · intro hacq kind
    have hleft := hcount kind
    have hcleared := clearedBy_of_ne hacq
    cases hk : item.request.checkKind with
    | none =>
      rw [pending_close_of_none (hcleared.trans hk), hleft]
      simp [isCheck, hk]
    | some ended =>
      rw [pending_close_of_some (hcleared.trans hk)]
      by_cases heq : kind = ended
      · subst heq
        have hone := Bool.toNat_le (s.pending kind)
        simp only [isCheck, hk, decide_true, Bool.toNat_true] at hleft
        rw [Function.update_self, Bool.toNat_false]
        omega
      · rw [Function.update_of_ne heq, hleft]
        simp [isCheck, hk, Ne.symm heq]

/-- One step keeps the flags exact, unless it is the last one with an acquisition check. -/
theorem flagsExact_step (h : FlagsExact s) (a : HvAction) :
    FlagsExact (s.step a).1 ↔ ¬ EndsAcquisitionCheck s a := by
  cases a with
  | submit priority request deadline =>
    exact ⟨fun _ he => he, fun _ => h.submit priority request deadline⟩
  | startCheck now => exact ⟨fun _ he => he, fun _ => h⟩
  | startAcqCheck now => exact ⟨fun _ he => he, fun _ => h⟩
  | safetyCheck now channels =>
    refine ⟨fun _ he => he, fun _ => ?_⟩
    show FlagsExact (s.safetyCheck now channels)
    unfold safetyCheck
    split
    next hc => exact h.putCheck (by simpa using hc.2) rfl
    next => exact h
  | powerCheck now channels =>
    refine ⟨fun _ he => he, fun _ => ?_⟩
    show FlagsExact (s.powerCheck now channels)
    unfold powerCheck
    split
    next hc => exact h.putCheck (by simpa using hc.2.2) rfl
    next => exact h
  | recoveryCheck now channels =>
    refine ⟨fun _ he => he, fun _ => ?_⟩
    show FlagsExact (s.recoveryCheck now channels)
    unfold recoveryCheck
    split
    next hc => exact h.putCheck (by simpa using hc.2.2) rfl
    next => exact h
  | acquisitionCheck now channels acqInfo =>
    refine ⟨fun _ he => he, fun _ => ?_⟩
    show FlagsExact (s.acquisitionCheck now channels acqInfo)
    unfold acquisitionCheck
    split
    · split
      next => exact h
      next hp => exact h.putCheck (by simpa using hp) rfl
    · exact h
  | setPolicy hvPolicy => exact ⟨fun _ he => he, fun _ => h⟩
  | setFixedBadChannels channels bus => exact ⟨fun _ he => he, fun _ => h⟩
  | checkMissingSerial bus => exact ⟨fun _ he => he, fun _ => h⟩
  | next now bus =>
    by_cases hend : ∃ item, s.worker = .ending item
    · obtain ⟨item, hw⟩ := hend
      rw [step_next_of_ending hw, flagsExact_close h hw]
      constructor
      · rintro hacq ⟨other, hother, hk⟩
        obtain rfl := HvWorker.ending.inj (hw.symm.trans hother)
        exact hacq hk
      · exact fun hn hk => hn ⟨item, hw, hk⟩
    · have hne : ∀ item, s.worker ≠ .ending item := fun item hw => hend ⟨item, hw⟩
      refine ⟨fun _ ⟨item, hw, _⟩ => hne item hw, fun _ kind => ?_⟩
      show (s.next now bus).1.queuedOrExecuting kind = ((s.next now bus).1.pending kind).toNat
      rw [queuedOrExecuting_next now bus hne, pending_next now bus hne]
      exact h kind

/-- The flags of a service are exact throughout a run exactly if no acquisition check comes to its
end in it. -/
theorem flags_exact_iff (service : HvService) (as : List HvAction) :
    (∀ pre, pre <+: as → FlagsExact (finalState step { service } pre)) ↔
      Meets (fun s a => (step s a).1) (fun s a => ¬ EndsAcquisitionCheck s a) { service } as := by
  show (∀ pre, pre <+: as → FlagsExact (run (fun s a => (step s a).1) { service } pre)) ↔ _
  have hstep : ∀ (s : HvThreads) (a : HvAction), True → FlagsExact s →
      (FlagsExact (s.step a).1 ↔ ¬ EndsAcquisitionCheck s a) := fun _ a _ h => flagsExact_step h a
  have hstart : FlagsExact { service } := fun _ => rfl
  exact run_invariant_iff (J := fun _ => True) (fun _ _ _ => trivial) hstep trivial hstart

/-! ## An acquisition check -/

/-- The channels of a service in acquisition: 3 is OK and off. -/
def withOkOff : HvThreads := { service := { hv := { okCh := [3], offCh := [3] } } }

/-- No board answers. -/
def silentBus : HvBus := { answer := fun _ _ => .error "no answer", rounds := fun _ => 0 }

/-- The first acquisition check is scheduled after 601 s and carried out. -/
def oneAcquisitionCheck : List HvAction :=
  .acquisitionCheck 601 [3] none :: List.replicate 4 (.next 601 silentBus)

/-- Nothing is left to do, the flag is set, and the next check is not scheduled. -/
theorem acquisitionFlag_left :
    let s := finalState step withOkOff oneAcquisitionCheck
    s.worker = .waiting ∧ s.inputQueue = [] ∧ s.pending .acquisition = true ∧
      (s.acquisitionCheck 1202 [3] none).inputQueue = [] ∧ ¬ FlagsExact s := by
  refine ⟨by decide +kernel, by decide +kernel, by decide +kernel, by decide +kernel, fun h => ?_⟩
  exact absurd (h .acquisition) (by decide +kernel)

end MultiDAQ.Client.HvThreads
