import MultiDAQ.Client.Register39
import MultiDAQ.Client.Verify.FixedBad

/-!
# When register 39 follows the HV state

After a request that has changed the ok or the on list, register 39 should show the channels of the HV
state (`Shows`). The synchronisation makes it do so, as long as every channel is one of the RC. It runs
after eleven of the commands only, while most of the others can move a channel too.
-/

namespace MultiDAQ.Client

open MultiDAQ.Lib MultiDAQ.Lib.Interaction

/-! ## The channels of the RC -/

/-- The HV channels that have an RC channel. -/
def IsRcChannel (ch : Int) : Prop := 1 ≤ ch ∧ ch ≤ 7

instance (ch : Int) : Decidable (IsRcChannel ch) := inferInstanceAs (Decidable (_ ∧ _))

/-- The ok and the bad channels are channels of the RC. -/
structure RcChannels (s : HvLists) : Prop where
  ok : ∀ ch ∈ s.okCh, IsRcChannel ch
  bad : ∀ ch ∈ s.badCh, IsRcChannel ch

section Keeping

variable {s : HvLists} {bus : HvBus} {ch : Int}

theorem RcChannels.withdraw (h : RcChannels s) : RcChannels (s.withdraw ch) where
  ok x hx := h.ok x (List.mem_of_mem_erase ((mem_sorted _ _).1 hx))
  bad x hx := h.bad x (List.mem_of_mem_erase ((mem_sorted _ _).1 hx))

theorem RcChannels.moveToBad (h : RcChannels s) (hch : IsRcChannel ch) :
    RcChannels (s.moveToBad ch) where
  ok x hx := h.ok x (List.mem_of_mem_erase ((mem_sorted _ _).1 hx))
  bad x hx := by
    rcases (mem_appendNew _ _ _).1 ((mem_sorted _ _).1 hx) with hx | rfl
    · exact h.bad x hx
    · exact hch

theorem RcChannels.moveToOk (h : RcChannels s) (hch : IsRcChannel ch) :
    RcChannels (s.moveToOk ch) where
  ok x hx := by
    rcases (mem_appendNew _ _ _).1 ((mem_sorted _ _).1 hx) with hx | rfl
    · exact h.ok x hx
    · exact hch
  bad x hx := h.bad x (List.mem_of_mem_erase ((mem_sorted _ _).1 hx))

theorem RcChannels.moveToOn (h : RcChannels s) : RcChannels (s.moveToOn ch) := by
  unfold HvLists.moveToOn
  split
  · exact h
  · exact ⟨h.ok, h.bad⟩

theorem respected_rcChannels : Respected IsRcChannel fun w => RcChannels w.state where
  issue _ h := h
  moveToOk hch h := h.moveToOk hch
  moveToBad hch h := h.moveToBad hch
  moveToOn h := h.moveToOn
  moveToOff h := ⟨h.ok, h.bad⟩
  ok h := h.ok
  bad h := h.bad

theorem respectsMarks_rcChannels : RespectsMarks IsRcChannel fun w => RcChannels w.state where
  moveToFixedBad _ h := ⟨h.withdraw.ok, h.withdraw.bad⟩
  removeFromFixedBad hch h := RcChannels.moveToBad ⟨h.ok, h.bad⟩ hch
  removeFromMissingSerial hch h := RcChannels.moveToBad ⟨h.ok, h.bad⟩ hch

/-- What a request leaves the lists with, whether it is answered or raises. -/
theorem execute_keeps {I : HvLists → Prop} {service : HvService} {request : HvRequest}
    (hI : I service.hv)
    (h : service.hvPolicy.allows request = true → Keeps bus (fun w => I w.state) (HV.handle request)) :
    I (service.execute request bus).2.1.hv := by
  have hend : Keeps bus (fun w => I w.state)
      (HvService.executeResponse service.hvPolicy request) := by
    unfold HvService.executeResponse
    split
    next hallows => exact keeps_try (h hallows) fun _ => keeps_pure _
    next => exact keeps_pure _
  have hrun := hend { state := service.hv } hI
  unfold HvService.execute
  rcases hr : HvService.executeResponse service.hvPolicy request bus { state := service.hv }
    with ⟨e | a, w⟩ <;> rw [hr] at hrun <;> exact hrun

/-- The channels that answer the startup scan, and the others, were scanned. -/
theorem triple_init_rcChannels (fixedBadChannels : List Int) :
    Triple bus Scanning (HV.init fixedBadChannels) (fun _ w => RcChannels w.state)
      fun w => RcChannels w.state := by
  refine triple_bind (triple_checkChannel.conseq (fun _ h => h) (fun _ _ h => h)
    fun _ h => h.elim) fun r w hw => ?_
  obtain ⟨ok, bad⟩ := r
  have hscanned {ch : Int} (hch : 0 < ok.count ch + bad.count ch) : IsRcChannel ch := by
    rw [hw.2 ch] at hch
    have hmem := (List.mem_filter.1 (List.count_pos_iff.1 hch)).1
    have hall : ∀ x ∈ ChannelsArg.all.chList 7, IsRcChannel x := by decide
    exact hall ch hmem
  have hscan : RcChannels { okCh := ok, badCh := bad } :=
    ⟨fun ch hch => hscanned (Nat.add_pos_left (List.count_pos_iff.2 hch) _),
      fun ch hch => hscanned (Nat.add_pos_right _ (List.count_pos_iff.2 hch))⟩
  refine keeps_bind (keeps_forEach fun ch _ => keeps_modify fun w hw => ?_) (fun _ => ?_)
    (w.update fun _ => { okCh := ok, badCh := bad }) hscan
  · exact ⟨hw.withdraw.ok, hw.withdraw.bad⟩
  · exact respected_rcChannels.getOkChannels_bind fun okCh hok =>
      respected_rcChannels.syncPowerState true okCh hok

theorem started_rcChannels (fixedBadChannels : List Int) (bus : HvBus) (policy : HvPolicy) :
    RcChannels (HvService.started fixedBadChannels bus policy).hv := by
  have h : Ends (fun _ w => RcChannels w.state) (fun w => RcChannels w.state)
      (HV.init fixedBadChannels bus _) := triple_init_rcChannels fixedBadChannels _ scanning_start
  unfold HvService.started
  rcases hr : HV.init fixedBadChannels bus { state := {} } with ⟨_ | _, w⟩ <;> rw [hr] at h <;>
    exact h

end Keeping

/-! ## The synchronisation -/

/-- The bits of the RC channels of a list. -/
theorem channelMask_of_rc : ∀ (mask : Nat) (l : List Int), (∀ ch ∈ l, 0 ≤ ch ∧ ch < 7) →
    channelMask mask l = some (setBits mask (l.map Int.toNat))
  | _, [], _ => rfl
  | mask, ch :: rest, h => by
    obtain ⟨h0, h7⟩ := h ch List.mem_cons_self
    unfold channelMask
    rw [if_neg (by omega)]
    exact channelMask_of_rc _ rest fun x hx => h x (List.mem_cons_of_mem _ hx)

theorem mem_enabledChannels {s : HvLists} {acqMode : Option AcqMode} {ch : Int} :
    ch ∈ s.enabledChannels acqMode ↔
      ch ∈ s.okCh ∧ (acqMode = some .test ∨ ch ∈ s.onCh) := by
  unfold HvLists.enabledChannels
  split
  next hmode => simp [hmode]
  next hmode => simp [hmode]

namespace HvRegister

variable {s : HvRegister} {ch : Int}

/-- Register 39 is `RC39_TRIGGER_RATE_MASK` with the bits `ch - 1` of the channels that are ok and on,
in test mode of the ok channels. -/
def Shows (s : HvRegister) : Prop :=
  ∀ n : Nat, s.register39.testBit n = true ↔ rc39TriggerRateMask.testBit n = true ∨
    ∃ ch : Int, (ch ∈ s.service.hv.okCh ∧ (s.acqMode = some .test ∨ ch ∈ s.service.hv.onCh)) ∧
      ch - 1 = n

/-- The ok and the on lists hold the same channels. -/
def SameChannels (s s' : HvLists) : Prop :=
  ∀ ch, (ch ∈ s'.okCh ↔ ch ∈ s.okCh) ∧ (ch ∈ s'.onCh ↔ ch ∈ s.onCh)

/-- After a request that has changed the ok or the on list, register 39 shows the HV state. -/
def Follows (s : HvRegister) : HvRegisterAction → Prop
  | .request request bus =>
    ¬ SameChannels s.service.hv (s.process request bus).service.hv → (s.process request bus).Shows
  | _ => True

theorem sync_service : s.syncRcRegister39WithHv.service = s.service := by
  unfold syncRcRegister39WithHv
  dsimp only
  split
  · rfl
  · split <;> rfl

theorem sync_acqMode : s.syncRcRegister39WithHv.acqMode = s.acqMode := by
  unfold syncRcRegister39WithHv
  dsimp only
  split
  · rfl
  · split <;> rfl

theorem sync_shows (h : RcChannels s.service.hv) : s.syncRcRegister39WithHv.Shows := by
  have hrange : ∀ rc ∈ (s.service.hv.enabledChannels s.acqMode).map (· - 1), 0 ≤ rc ∧ rc < 7 := by
    intro rc hrc
    obtain ⟨ch, hch, rfl⟩ := List.mem_map.1 hrc
    obtain ⟨h1, h7⟩ := h.ok ch (mem_enabledChannels.1 hch).1
    omega
  have hvalue : s.syncRcRegister39WithHv.register39 =
      setBits 0 (((s.service.hv.enabledChannels s.acqMode).map (· - 1)).map Int.toNat) |||
        rc39TriggerRateMask := by
    unfold syncRcRegister39WithHv
    dsimp only
    rw [channelMask_of_rc 0 _ hrange]
    dsimp only
    split
    next heq => exact heq
    next => rfl
  intro n
  rw [hvalue, sync_service, sync_acqMode]
  simp only [Nat.testBit_or, Bool.or_eq_true, testBit_setBits, Nat.zero_testBit,
    Bool.false_eq_true, false_or]
  rw [or_comm]
  refine or_congr_right ?_
  constructor
  · intro hn
    obtain ⟨rc, hrc, rfl⟩ := List.mem_map.1 hn
    obtain ⟨h0, -⟩ := hrange rc hrc
    obtain ⟨ch, hch, rfl⟩ := List.mem_map.1 hrc
    exact ⟨ch, mem_enabledChannels.1 hch, (Int.toNat_of_nonneg h0).symm⟩
  · rintro ⟨ch, hch, hn⟩
    refine List.mem_map.2 ⟨ch - 1, List.mem_map_of_mem (mem_enabledChannels.2 hch), ?_⟩
    omega

/-! ## The requests without a synchronisation -/

/-- The calls that a command of the set points makes for a channel. -/
def setPointCalls : HvRequest → Int → List HvCall
  | .setCommonVoltage _ voltage, ch => [.setVoltageSet voltage ch]
  | .setCommonThreshold _ threshold, ch => [.setThreshold threshold ch]
  | .getVoltageChannels _, ch => [.getVoltageSet ch]
  | .getThresholdChannels _, ch => [.getThreshold ch]
  | .getVoltThrChannels _, ch => [.getVoltageSet ch, .getThreshold ch]
  | .setAcquisitionConfiguration _ acqConfiguration _, ch =>
    match acqConfiguration.get? (ch - 1) with
    | none | some { voltage := none, threshold := none } => []
    | some { voltage, threshold } =>
      [.getVoltageSet ch, .getThreshold ch] ++
        (voltage.map fun v => HvCall.setVoltageSet (HV.pyRound v) ch).toList ++
        (threshold.map fun t => HvCall.setThreshold (HV.pyRound t) ch).toList
  | _, _ => []

/-- Every requested OK channel answers the calls of the command. -/
def SetPointsAnswered (s : HvLists) (bus : HvBus) (request : HvRequest)
    (channels : ChannelsArg) : Prop :=
  ∀ ch ∈ requested channels, ch ∈ s.okCh →
    ∀ c ∈ setPointCalls request ch, bus.Gives c fun _ => True

/-- The requested channels are neither ok nor on. -/
def OutOfUse (s : HvLists) (channels : List Int) : Prop :=
  ∀ ch ∈ channels, ch ∉ s.okCh ∧ ch ∉ s.onCh

/-- A command without a synchronisation that has nothing to move: the boards answer the commands of the
set points, and the other commands find none of their channels in use. -/
def MovesNothing (s : HvLists) (bus : HvBus) : HvRequest → Prop
  | request@(.setCommonVoltage channels _) | request@(.setCommonThreshold channels _)
  | request@(.getVoltageChannels channels) | request@(.getThresholdChannels channels)
  | request@(.getVoltThrChannels channels) => SetPointsAnswered s bus request channels
  | request@(.setAcquisitionConfiguration channels _ waitRamp) =>
    SetPointsAnswered s bus request channels ∧
      (waitRamp = true → ∀ ch ∈ requested channels, ch ∉ s.onCh)
  | .getPowerStateChannels channels | .hvSetUserBad channels | .hvUnsetUserBad channels
  | .hvForceOff channels => OutOfUse s (requested channels)
  | .hvOffAndWait channels => ∀ ch ∈ requested channels, ch ∉ s.okCh
  | .setPmtSerials serials => OutOfUse s serials.keys
  | .getSerialMap _ => True
  | .checkChannelAcquisition _ => s.okOffChannels = []
  | _ => False

section MovesNothing

variable {s t : HvLists} {bus : HvBus} {request : HvRequest} {channels : ChannelsArg} {α : Type}

theorem SameChannels.moveToBad (h : SameChannels s t) (hch : ch ∉ s.okCh ∧ ch ∉ s.onCh) :
    SameChannels s (t.moveToBad ch) := by
  have hok : ch ∉ t.okCh := fun hmem => hch.1 ((h ch).1.1 hmem)
  have hon : ch ∉ t.onCh := fun hmem => hch.2 ((h ch).2.1 hmem)
  intro x
  simp only [HvLists.moveToBad, mem_sorted, List.erase_of_not_mem hok, List.erase_of_not_mem hon]
  exact h x

theorem SameChannels.moveToOn (h : SameChannels s t) (hch : ch ∉ s.okCh) :
    SameChannels s (t.moveToOn ch) := by
  unfold HvLists.moveToOn
  rw [if_pos fun hmem => hch ((h ch).1.1 hmem)]
  exact h

theorem SameChannels.moveToOff (h : SameChannels s t) (hch : ch ∉ s.onCh) :
    SameChannels s (t.moveToOff ch) := by
  have hon : ch ∉ t.onCh := fun hmem => hch ((h ch).2.1 hmem)
  intro x
  simp only [HvLists.moveToOff, mem_sorted, List.erase_of_not_mem hon]
  exact h x

theorem SameChannels.moveToFixedBad (h : SameChannels s t) (hch : ch ∉ s.okCh ∧ ch ∉ s.onCh) :
    SameChannels s (t.moveToFixedBad ch) := by
  have hok : ch ∉ t.okCh := fun hmem => hch.1 ((h ch).1.1 hmem)
  have hon : ch ∉ t.onCh := fun hmem => hch.2 ((h ch).2.1 hmem)
  intro x
  simp only [HvLists.moveToFixedBad, HvLists.withdraw, mem_sorted, List.erase_of_not_mem hok,
    List.erase_of_not_mem hon]
  exact h x

/-- The lists hold the ok and on channels of `s`. -/
def Unmoved (s : HvLists) (w : World HvLists HvCall) : Prop := SameChannels s w.state

theorem unmoved_call {c : HvCall} : Keeps bus (Unmoved s) (call c) :=
  keeps_call fun _ h => h

theorem answers_call {c : HvCall} (hc : bus.Gives c fun _ => True) :
    Answers bus (Unmoved s) (call c) :=
  (triple_call_gives hc fun _ h => h).conseq (fun _ h => h) (fun _ _ h => h.1) fun _ h => h

theorem answers_readSetPoints (hv : bus.Gives (.getVoltageSet ch) fun _ => True)
    (ht : bus.Gives (.getThreshold ch) fun _ => True) :
    Answers bus (Unmoved s) (HV.readSetPoints ch) :=
  answers_bind (answers_call hv) fun _ => answers_bind (answers_call ht) fun _ => answers_pure _

/-- An operation on OK channels that answer. -/
theorem unmoved_okChannels {action : Int → HvM α} {recover : Int → HvM Unit}
    {data : List (Int × α) → HvData}
    (ha : ∀ ch ∈ requested channels, ch ∈ s.okCh → Answers bus (Unmoved s) (action ch)) :
    Keeps bus (Unmoved s) (HV.withLists (HV.okChannels channels action recover data)) := by
  refine keeps_withLists (keeps_channelsDefinition_bind ?_)
  refine keeps_read_bind (C := fun okCh => ∀ ch ∈ okCh, ch ∈ s.okCh)
    (fun w hw ch hch => (hw ch).1.1 hch) fun okCh hok => ?_
  refine keeps_bind (keeps_mapEach fun ch hch => ?_) fun _ => keeps_pure _
  obtain ⟨hreq, hmem⟩ := List.mem_filter.1 hch
  exact (answers_attempt (ha ch hreq (hok ch (of_decide_eq_true hmem)))).keeps

theorem answers_writeIf {b : Bool} {p : HvM Unit} (h : b = true → Answers bus (Unmoved s) p) :
    Answers bus (Unmoved s) (HV.writeIf b p) := by
  unfold HV.writeIf
  split
  next hb => exact h hb
  next => exact answers_pure ()

theorem answers_applyConfig {config : HV.ChannelConfig}
    (hv : bus.Gives (.getVoltageSet ch) fun _ => True)
    (ht : bus.Gives (.getThreshold ch) fun _ => True)
    (hvoltage : ∀ v, config.voltage = some v →
      bus.Gives (.setVoltageSet (HV.pyRound v) ch) fun _ => True)
    (hthreshold : ∀ t, config.threshold = some t →
      bus.Gives (.setThreshold (HV.pyRound t) ch) fun _ => True) :
    Answers bus (Unmoved s) (HV.applyConfig config ch) := by
  refine answers_bind (answers_readSetPoints hv ht) fun previous =>
    answers_bind (answers_writeIf fun hsome => ?_) fun _ =>
      answers_bind (answers_writeIf fun hsome => ?_) fun _ => answers_pure _
  · obtain ⟨v, hv⟩ := Option.isSome_iff_exists.1 hsome
    rw [hv]
    exact answers_call (hvoltage v hv)
  · obtain ⟨t, ht⟩ := Option.isSome_iff_exists.1 hsome
    rw [ht]
    exact answers_call (hthreshold t ht)

/-- A channel that answers is configured or left as it is. -/
theorem unmoved_configureChannel {config : Dict Int HV.ChannelConfig} {waitRamp : Bool}
    (h : ∀ c ∈ setPointCalls (.setAcquisitionConfiguration channels config waitRamp) ch,
      bus.Gives c fun _ => True) :
    Keeps bus (Unmoved s) (HV.configureChannel (config.get? (ch - 1)) ch) := by
  dsimp only [setPointCalls] at h
  unfold HV.configureChannel
  cases hconfig : config.get? (ch - 1) with
  | none => exact keeps_pure none
  | some entry =>
    rw [hconfig] at h
    dsimp only
    split
    · exact keeps_pure none
    next hsome =>
      obtain ⟨voltage, threshold⟩ := entry
      have hall : ∀ c ∈ [HvCall.getVoltageSet ch, .getThreshold ch] ++
          (voltage.map fun v => HvCall.setVoltageSet (HV.pyRound v) ch).toList ++
          (threshold.map fun t => HvCall.setThreshold (HV.pyRound t) ch).toList,
          bus.Gives c fun _ => True := by
        cases voltage with
        | some => exact h
        | none =>
          cases threshold with
          | some => exact h
          | none => exact absurd ⟨rfl, rfl⟩ hsome
      refine (answers_attempt (answers_applyConfig (hall _ (by simp)) (hall _ (by simp))
        (fun v hv => hall _ ?_) fun t ht => hall _ ?_)).keeps
      · simp [show voltage = some v from hv]
      · simp [show threshold = some t from ht]

/-- Without a ramp to wait for. -/
theorem unmoved_setAcquisitionConfiguration {config : Dict Int HV.ChannelConfig} {waitRamp : Bool}
    (h : SetPointsAnswered s bus (.setAcquisitionConfiguration channels config waitRamp) channels)
    (hramp : waitRamp = true → ∀ ch ∈ requested channels, ch ∉ s.onCh) :
    Keeps bus (Unmoved s) (HV.setAcquisitionConfiguration channels config waitRamp) := by
  refine keeps_withLists (keeps_channelsDefinition_bind ?_)
  refine keeps_read_bind (C := fun okCh => ∀ ch ∈ okCh, ch ∈ s.okCh)
    (fun w hw ch hch => (hw ch).1.1 hch) fun okCh hok => ?_
  refine keeps_read_bind (C := fun onCh => ∀ ch ∈ requested channels, ch ∉ onCh)
    (fun w hw ch hch hmem => ?_) fun onCh hon => ?_
  · split at hmem
    next hwait => exact hramp hwait ch hch ((hw ch).2.1 hmem)
    next => cases hmem
  refine keeps_mapEach_bind (fun ch hch => ?_) fun outcomes ho => ?_
  · obtain ⟨hreq, hmem⟩ := List.mem_filter.1 hch
    exact unmoved_configureChannel (h ch hreq (hok ch (of_decide_eq_true hmem)))
  · have hnone : HV.rampChannels onCh (HV.successes outcomes) = [] := by
      refine List.eq_nil_iff_forall_not_mem.2 fun ch hch => ?_
      obtain ⟨e, he, rfl⟩ := List.mem_map.1 hch
      obtain ⟨hmem, hcond⟩ := List.mem_filter.1 he
      have hreq := mem_of_mem_successes hmem
      rw [ho] at hreq
      exact hon e.1 (List.mem_filter.1 hreq).1 (of_decide_eq_true hcond).1
    dsimp only
    rw [hnone]
    exact keeps_bind (keeps_pure []) fun _ => keeps_pure _

theorem unmoved_moveToBad (hch : ch ∉ s.okCh ∧ ch ∉ s.onCh) :
    Keeps bus (Unmoved s) (HV.moveToBad ch) :=
  keeps_modify fun _ h => h.moveToBad hch

theorem unmoved_awaitPowerState (hch : ch ∉ s.okCh ∧ ch ∉ s.onCh) :
    ∀ polls, Keeps bus (Unmoved s) (HV.awaitPowerState ch polls) := by
  have hup : Keeps bus (Unmoved s) (HV.moveToOn ch) := keeps_modify fun _ h => h.moveToOn hch.1
  have hdown : Keeps bus (Unmoved s) (HV.moveToOff ch) := keeps_modify fun _ h => h.moveToOff hch.2
  have hread : Keeps bus (Unmoved s) (HVModBus.getStatus ch) := keeps_map unmoved_call
  intro polls
  induction polls with
  | zero =>
    unfold HV.awaitPowerState
    refine keeps_bind hread fun status => ?_
    split
    · exact keeps_bind hup fun _ => keeps_pure _
    · exact keeps_bind hdown fun _ => keeps_pure _
    · exact keeps_bind (unmoved_moveToBad hch) fun _ => keeps_pure _
    all_goals exact keeps_pure none
  | succ polls ih =>
    unfold HV.awaitPowerState
    refine keeps_bind hread fun status => ?_
    split
    · exact keeps_bind hup fun _ => keeps_pure _
    · exact keeps_bind hdown fun _ => keeps_pure _
    · exact keeps_bind (unmoved_moveToBad hch) fun _ => keeps_pure _
    · exact keeps_pure none
    all_goals exact ih

theorem unmoved_getPowerState (h : OutOfUse s (requested channels)) :
    Keeps bus (Unmoved s) (HV.getPowerState channels) := by
  refine keeps_withLists (keeps_channelsDefinition_bind ?_)
  refine keeps_bind (keeps_mapEach fun ch hch => keeps_map ?_) fun _ => keeps_pure _
  exact keeps_attempt (keeps_bind keeps_waitRounds (unmoved_awaitPowerState (h ch hch)))
    (unmoved_moveToBad (h ch hch))

theorem unmoved_forceOff (h : OutOfUse s (requested channels)) :
    Keeps bus (Unmoved s) (HV.forceOff channels) := by
  refine keeps_withLists (keeps_channelsDefinition_bind ?_)
  refine keeps_bind (keeps_mapEach fun ch hch => ?_) fun _ => keeps_pure _
  exact keeps_attempt (keeps_bind unmoved_call fun _ => keeps_modify fun _ hw =>
    hw.moveToOff (h ch hch).2) (unmoved_moveToBad (h ch hch))

/-- Without an OK channel there is nothing to switch off. -/
theorem unmoved_offAndWait (h : ∀ ch ∈ requested channels, ch ∉ s.okCh) :
    Keeps bus (Unmoved s) (HV.offAndWait channels) := by
  refine keeps_withLists (keeps_channelsDefinition_bind ?_)
  refine keeps_read_bind (C := fun okCh => (requested channels).filter (· ∈ okCh) = [])
    (fun w hw => ?_) fun okCh hnone => ?_
  · refine List.filter_eq_nil_iff.2 fun ch hch hmem => h ch hch ((hw ch).1.1 ?_)
    exact of_decide_eq_true hmem
  · rw [hnone]
    refine keeps_mapEach_bind (fun ch hch => nomatch hch) fun outcomes ho => ?_
    obtain rfl := List.map_eq_nil_iff.1 ho
    refine keeps_bind keeps_waitRounds fun _ => keeps_pollRounds_bind (C := fun _ => False)
      (fun _ hfalse => hfalse.elim) (fun _ hch => nomatch hch) fun r _ hleft => ?_
    exact keeps_bind (keeps_forEach fun ch hch => (hleft ch hch).elim) fun _ => keeps_pure _

theorem unmoved_handle (h : MovesNothing s bus request) (hr : ∀ acqInfo,
    request ≠ .checkChannelAcquisition acqInfo) : Keeps bus (Unmoved s) (HV.handle request) := by
  cases request with
  | setCommonVoltage =>
    exact keeps_map (unmoved_okChannels fun ch hreq hok =>
      answers_call (h ch hreq hok _ List.mem_cons_self))
  | setCommonThreshold =>
    exact keeps_map (unmoved_okChannels fun ch hreq hok =>
      answers_call (h ch hreq hok _ List.mem_cons_self))
  | getVoltageChannels =>
    exact keeps_map (unmoved_okChannels fun ch hreq hok =>
      answers_call (h ch hreq hok _ List.mem_cons_self))
  | getThresholdChannels =>
    exact keeps_map (unmoved_okChannels fun ch hreq hok =>
      answers_call (h ch hreq hok _ List.mem_cons_self))
  | getVoltThrChannels =>
    exact keeps_map (unmoved_okChannels fun ch hreq hok => answers_readSetPoints
      (h ch hreq hok _ List.mem_cons_self)
      (h ch hreq hok _ (List.mem_cons_of_mem _ List.mem_cons_self)))
  | setAcquisitionConfiguration =>
    exact keeps_map (unmoved_setAcquisitionConfiguration h.1 h.2)
  | getPowerStateChannels => exact keeps_map (unmoved_getPowerState h)
  | hvSetUserBad =>
    exact Respected.moveAll fun ch hch => keeps_modify fun _ hw => hw.moveToFixedBad (h ch hch)
  | hvUnsetUserBad =>
    exact Respected.moveAll fun ch hch => keeps_modify fun _ hw =>
      SameChannels.moveToBad hw (h ch hch)
  | hvForceOff => exact keeps_map (unmoved_forceOff h)
  | hvOffAndWait => exact keeps_map (unmoved_offAndWait h)
  | setPmtSerials =>
    refine keeps_bind (keeps_mapEach fun ch hch => keeps_attempt (keeps_bind ?_ fun _ => ?_)
      (keeps_pure ())) fun _ => keeps_pure _
    · exact keeps_setPmtSerial fun _ hw => hw
    · exact keeps_modify fun _ hw => SameChannels.moveToBad hw (h ch hch)
  | getSerialMap => exact keeps_serialMap fun _ _ hw => hw
  | checkChannelAcquisition acqInfo => exact absurd rfl (hr acqInfo)
  | _ => cases h

theorem execute_sameChannels {service : HvService} (h : MovesNothing service.hv bus request) :
    SameChannels service.hv (service.execute request bus).2.1.hv := by
  have hrefl : SameChannels service.hv service.hv := fun _ => ⟨Iff.rfl, Iff.rfl⟩
  by_cases hr : ∃ acqInfo, request = .checkChannelAcquisition acqInfo
  · obtain ⟨acqInfo, rfl⟩ := hr
    -- without an ok channel that is off the recovery leaves the lists exactly as they are
    have hsame : (service.execute (.checkChannelAcquisition acqInfo) bus).2.1.hv = service.hv := by
      refine execute_keeps (I := (· = service.hv)) rfl fun _ => keeps_map (keeps_withLists ?_)
      refine keeps_read_bind (C := (· = [])) (fun w hw => hw ▸ h) fun okOff hnone => ?_
      rw [if_pos hnone]
      exact keeps_pure _
    exact hsame ▸ hrefl
  · exact execute_keeps (I := SameChannels service.hv) hrefl fun _ =>
      unmoved_handle h fun acqInfo heq => hr ⟨acqInfo, heq⟩

end MovesNothing

/-! ## The requests of a run -/

variable {a : HvRegisterAction}

/-- The request names channels of the RC, and the worker synchronises register 39 after its command, or
refuses the command, or the command has nothing to move. -/
def Synchronised (s : HvRegister) : HvRegisterAction → Prop
  | .request request bus =>
    (∀ ch ∈ request.actsOn, IsRcChannel ch) ∧
      (request.notifiesStateChange = true ∨ s.service.hvPolicy.allows request = false ∨
        MovesNothing s.service.hv bus request)
  | _ => True

theorem process_service (request : HvRequest) (bus : HvBus) :
    (s.process request bus).service = (s.service.execute request bus).2.1 := by
  unfold process
  dsimp only
  split
  · exact sync_service
  · rfl

theorem rcChannels_step (h : RcChannels s.service.hv) (ha : Synchronised s a) :
    RcChannels (s.step a).service.hv := by
  cases a with
  | request request bus =>
    show RcChannels (s.process request bus).service.hv
    rw [process_service]
    exact execute_keeps h fun _ => respected_rcChannels.handle respectsMarks_rcChannels ha.1
      fun _ _ _ _ hw => hw
  | _ => exact h

theorem follows_of_synchronised (h : RcChannels s.service.hv) (ha : Synchronised s a) :
    Follows s a := by
  cases a with
  | request request bus =>
    intro hchanged
    have hrc : RcChannels (s.service.execute request bus).2.1.hv :=
      execute_keeps h fun _ => respected_rcChannels.handle respectsMarks_rcChannels ha.1
        fun _ _ _ _ hw => hw
    rcases ha.2 with hnotifies | hblocked | hnothing
    · unfold process
      rw [if_pos hnotifies]
      exact sync_shows hrc
    · rw [process_service] at hchanged
      refine absurd ?_ hchanged
      exact execute_keeps (I := SameChannels s.service.hv) (fun _ => ⟨Iff.rfl, Iff.rfl⟩)
        fun hallows => absurd hallows (by simp [hblocked])
    · rw [process_service] at hchanged
      exact absurd (execute_sameChannels hnothing) hchanged
  | _ => trivial

/-- A client whose HV service has been started. -/
def started (fixedBadChannels : List Int) (bus : HvBus) (policy : HvPolicy)
    (register39 : Nat) : HvRegister where
  service := HvService.started fixedBadChannels bus policy
  register39 := register39

/-- In a run whose requests are synchronised or have nothing to move, register 39 shows the HV state
after every request that has changed the ok or the on list. -/
theorem register39_follows (fixedBadChannels : List Int) (bus : HvBus) (policy : HvPolicy)
    (register39 : Nat) (as : List HvRegisterAction)
    (h : Meets step Synchronised (started fixedBadChannels bus policy register39) as) :
    Meets step Follows (started fixedBadChannels bus policy register39) as :=
  h.of_invariant (I := fun s => RcChannels s.service.hv) (fun _ _ => rcChannels_step)
    (fun _ _ => follows_of_synchronised) (started_rcChannels fixedBadChannels bus policy)

/-- Channel 3 is switched on, which changes the on list, and gets another voltage. -/
theorem register39_follows_on :
    Meets step Follows (started [] answeringBus .fullControl 0)
      [.request (.hvOn (.one 3)) answeringBus,
        .request (.setCommonVoltage (.one 3) 700) answeringBus] := by
  refine register39_follows [] answeringBus .fullControl 0 _
    ⟨⟨nofun, .inl rfl⟩, ⟨nofun, .inr (.inr fun ch _ _ c hc n => ?_)⟩, trivial⟩
  obtain rfl := List.mem_singleton.1 hc
  exact ⟨(), rfl, trivial⟩

/-- Channel 3 is switched on, then off with `hv_off_and_wait`: bit 2 stays set. -/
theorem register39_stale :
    ¬ Follows (run step (started [] answeringBus .fullControl 0)
      [.request (.hvOn (.one 3)) answeringBus])
      (.request (.hvOffAndWait (.one 3)) answeringBus) := by
  intro h
  have hbefore : (3 : Int) ∈ (run step (started [] answeringBus .fullControl 0)
      [.request (.hvOn (.one 3)) answeringBus]).service.hv.onCh := by decide +kernel
  have hafter : ((run step (started [] answeringBus .fullControl 0)
      [.request (.hvOn (.one 3)) answeringBus]).process (.hvOffAndWait (.one 3))
        answeringBus).service.hv.onCh = [] := by decide +kernel
  have hmode : ((run step (started [] answeringBus .fullControl 0)
      [.request (.hvOn (.one 3)) answeringBus]).process (.hvOffAndWait (.one 3))
        answeringBus).acqMode = none := by decide +kernel
  have hshows := h fun hsame => by
    have hmem := (hsame 3).2.2 hbefore
    rw [hafter] at hmem
    cases hmem
  obtain ⟨ch, ⟨-, hon⟩, -⟩ := ((hshows 2).1 (by decide +kernel)).resolve_left (by decide)
  rw [hafter, hmode] at hon
  rcases hon with hon | hon <;> cases hon

end HvRegister

end MultiDAQ.Client
