import MultiDAQ.Client.Verify.Commands

/-!
# Fixed-bad channels are not powered on

A channel that is fixed bad is taken out of the lists of OK and bad channels, and only OK channels
are powered on. Some operations put a channel into the bad list without looking whether it is fixed
bad or without a serial: the queries of the power state, the readings of the monitoring and the
forced power-off when the board does not answer, the writing of a serial, the marks of a channel
that is in the other class, and an address change. From the bad list a recovery brings it back among
the OK channels. `Spares` is the condition that a step does not do that. In a run of such steps the
classes stay disjoint and no fixed-bad channel is powered on (`fixedBad_unpowered`).
-/

namespace MultiDAQ.Client

open MultiDAQ.Lib MultiDAQ.Lib.Interaction

/-- No channel out of service is reclassified by the step. A board out of service that is asked
answers; a channel without a serial is neither marked nor unmarked; a fixed-bad channel gets no
serial, and no address of a channel out of service is taken. -/
def Spares (s : HvLists) (bus : HvBus) : HvStep → Prop
  | .request (.getPowerStateChannels chs) => ∀ ch ∈ requested chs, s.OutOfService ch →
      bus.Gives (.getStatus ch) fun code => statusString code ≠ .trip
  | .request (.hvForceOff chs) => ∀ ch ∈ requested chs, s.OutOfService ch →
      bus.Gives (.powerOff ch) fun _ => True
  | .request (.hvElectricalMonitoring chs) => ∀ ch ∈ requested chs, s.OutOfService ch →
      AnswersElectrical bus ch
  | .request (.hvStatusAlarmMonitoring chs) => ∀ ch ∈ requested chs, s.OutOfService ch →
      AnswersStatusAlarm bus ch
  | .request (.hvMonitorSnapshot chs) => ∀ ch ∈ requested chs, ch ∉ s.fixedBad →
      ch ∈ s.missingSerial → AnswersElectrical bus ch ∧ AnswersStatusAlarm bus ch
  | .request (.setHvSync chs) => ∀ ch ∈ requested chs, ch ∉ s.fixedBad → ch ∈ s.missingSerial →
      bus.Gives (.readAddress ch) fun _ => True
  | .request (.setPmtSerials serials) => ∀ ch ∈ serials.keys, ch ∈ s.fixedBad →
      (ch < 1 ∨ HVModBus.numChannels < ch) ∨
        bus.Refuses (.setPMTSerialNumber ((serials.get? ch).getD "") ch)
  | .request (.febChangeAddress index _) => s.OutOfService (index + 1) →
      bus.Refuses (.readAddress (index + 1))
  | .request (.hvSetUserBad chs) | .request (.hvUnsetUserBad chs) => ∀ ch ∈ requested chs,
      ch ∉ s.missingSerial
  | .setFixedBadChannels chs => ∀ ch ∈ requested (.list chs), ch ∉ s.missingSerial
  | _ => True

/-- The step marks the channel fixed bad. -/
def HvStep.marks (ch : Int) : HvStep → Prop
  | .request (.hvSetUserBad chs) => ch ∈ requested chs
  | .setFixedBadChannels chs => ch ∈ requested (.list chs)
  | _ => False

/-- The step takes the mark away. -/
def HvStep.unmarks (ch : Int) : HvStep → Prop
  | .request (.hvUnsetUserBad chs) => ch ∈ requested chs
  | .setFixedBadChannels chs => hvChannelsDefinition (.list chs) = .ok chs ∧ ch ∉ chs
  | _ => False

/-- The channel was marked, at the start or by a step, and has not been unmarked since. -/
def MarkedSince (fixedBadChannels : List Int) (steps : List HvStep) (ch : Int) : Prop :=
  (ch ∈ fixedBadChannels ∧ ∀ a ∈ steps, ¬ a.unmarks ch) ∨
  ∃ before a after, steps = before ++ a :: after ∧ a.marks ch ∧ ∀ b ∈ after, ¬ b.unmarks ch

section Steps

variable {F M : List Int} {bus : HvBus} {w : World HvLists HvCall} {ch : Int} {α : Type}

/-! ## The requests that move no channel out of service -/

/-- The requests that change the marks or the serials. -/
def HvRequest.reclassifies : HvRequest → Bool
  | .hvSetUserBad _ | .hvUnsetUserBad _ | .setPmtSerials _ => true
  | _ => false

theorem keeps_handle {s : HvLists} (hF : s.fixedBad = F) (hM : s.missingSerial = M)
    {request : HvRequest} (hr : request.reclassifies = false)
    (h : Spares s bus (.request request)) : Keeps bus (Serving F M) (HV.handle request) := by
  subst hF hM
  cases request with
  | setCommonVoltage => exact keeps_map (respected_serving.orBad fun _ => keeps_unpowered fun _ => nofun)
  | setCommonThreshold => exact keeps_map (respected_serving.orBad fun _ => keeps_unpowered fun _ => nofun)
  | setAcquisitionConfiguration => exact keeps_map respected_serving.setAcquisitionConfiguration
  | getVoltageChannels => exact keeps_map (respected_serving.orBad fun _ => keeps_unpowered fun _ => nofun)
  | getThresholdChannels => exact keeps_map (respected_serving.orBad fun _ => keeps_unpowered fun _ => nofun)
  | getVoltThrChannels => exact keeps_map (respected_serving.orBad fun _ => respected_serving.readSetPoints)
  | getPowerStateChannels => exact keeps_map (keeps_getPowerState h)
  | hvSetUserBad => cases hr
  | hvUnsetUserBad => cases hr
  | hvOn => exact keeps_map (respected_serving.on powersOn_serving)
  | hvOff => exact keeps_map respected_serving.off
  | hvForceOff =>
    exact keeps_map (keeps_allChannels (fun _ => respected_serving.powerOffChannel)
      fun ch hch ho => answers_powerOffChannel (h ch hch ho))
  | hvOnAndWait => exact keeps_map (respected_serving.onAndWait powersOn_serving)
  | hvOffAndWait => exact keeps_map respected_serving.offAndWait
  | setHvSync => exact keeps_map (keeps_hvSync h)
  | setPmtSerials => cases hr
  | getSerialMap => exact respected_serving.serialMap
  | febChangeAddress => exact keeps_map (keeps_changeFebAddress h)
  | checkChannelSafety => exact keeps_checkChannelSafety
  | checkChannelPower => exact keeps_map respected_serving.checkChannelPower
  | checkRecoveryBad => exact keeps_map respected_serving.recoverBadChannels
  | checkChannelAcquisition =>
    exact keeps_map (respected_serving.recoverOkOffAcquisition powersOn_serving)
  | hvElectricalMonitoring => exact keeps_bind (keeps_getChElectrical h) fun _ => keeps_pure _
  | hvStatusAlarmMonitoring =>
    exact keeps_bind (keeps_getChStatusAndAlarm h) fun _ => keeps_pure _
  | hvChannelLists => exact keeps_map (keeps_withLists (keeps_pure _))
  | hvMonitorSnapshot => exact keeps_bind (keeps_monitorSnapshot h) fun _ => keeps_pure _

/-! ## Serials -/

/-- `Serving` for some set of channels without a serial. -/
def Holding (F : List Int) (w : World HvLists HvCall) : Prop := ∃ M, Serving F M w

theorem Serving.holding (h : Serving F M w) : Holding F w := ⟨M, h⟩

theorem keeps_holding {p : HvM α} (h : ∀ M, Keeps bus (Serving F M) p) :
    Keeps bus (Holding F) p :=
  fun w ⟨M, hw⟩ => (h M w hw).imp (fun _ _ h => h.holding) fun _ h => h.holding

/-- A move between the serial classes of a channel that is not fixed bad. -/
theorem keeps_serialMove {f : HvLists → HvLists} (hf : ∀ s, (f s).fixedBad = s.fixedBad)
    (hc : ∀ s : HvLists, s.Classified → s.fixedBad = F → (f s).Classified) :
    Keeps bus (Holding F) (modify f) :=
  keeps_modify fun w ⟨_, hw⟩ => ⟨(f w.state).missingSerial, {
    classified := hc w.state hw.classified hw.fixedBad
    fixedBad := (hf w.state).trans hw.fixedBad
    missingSerial := rfl
    unpowered := hw.unpowered }⟩

/-- A serial that is refused changes nothing. -/
theorem triple_setPmtSerial_refused {serial : String}
    (h : (ch < 1 ∨ HVModBus.numChannels < ch) ∨ bus.Refuses (.setPMTSerialNumber serial ch)) :
    Triple bus (Holding F) (HV.setPmtSerial ch serial) (fun _ _ => False) (Holding F) := by
  unfold HV.setPmtSerial
  split
  next => exact triple_raise fun _ h => h
  next hb =>
    exact triple_call_refuses (h.resolve_left hb) fun w ⟨M, hw⟩ => ⟨M, hw.issue fun _ _ => nofun⟩

theorem keeps_writeSerial {serial : String} (h : ch ∈ F →
    (ch < 1 ∨ HVModBus.numChannels < ch) ∨ bus.Refuses (.setPMTSerialNumber serial ch)) :
    Keeps bus (Holding F) (HV.writeSerial ch serial) := by
  refine keeps_attempt ?_ (keeps_pure ())
  by_cases hch : ch ∈ F
  · exact triple_bind (triple_setPmtSerial_refused (h hch)) fun _ _ hw => hw.elim
  · exact keeps_bind (keeps_setPmtSerial fun w ⟨M, hw⟩ => ⟨M, hw.issue fun _ _ => nofun⟩) fun _ =>
      keeps_serialMove (fun _ => rfl) fun s hs hF => hs.removeFromMissingSerial (hF ▸ hch)

theorem keeps_setPmtSerials {serials : Dict Int String} (h : ∀ ch ∈ serials.keys, ch ∈ F →
    (ch < 1 ∨ HVModBus.numChannels < ch) ∨
      bus.Refuses (.setPMTSerialNumber ((serials.get? ch).getD "") ch)) :
    Keeps bus (Holding F) (HV.setPmtSerials serials) :=
  keeps_bind (keeps_mapEach fun ch hch => keeps_writeSerial (h ch hch)) fun _ => keeps_pure _

theorem keeps_checkMissingSerial {channels : List Int} (h : ∀ ch ∈ channels, ch ∉ F) :
    Keeps bus (Holding F) (HV.checkMissingSerial channels) := by
  refine keeps_bind (keeps_mapEach fun ch hch => ?_) fun _ => keeps_pure _
  refine keeps_bind (keeps_attempt (keeps_holding fun _ => keeps_unpowered fun _ => nofun)
    (keeps_pure ())) fun serial => ?_
  split
  · exact keeps_pure false
  · exact keeps_bind (keeps_serialMove (fun _ => rfl) fun s hs hF =>
      hs.moveToMissingSerial (hF ▸ h ch hch)) fun _ => keeps_pure true

/-! ## Marks -/

theorem foldl_moveToFixedBad (chs : List Int) (s : HvLists) (hs : s.Classified)
    (h : ∀ ch ∈ chs, ch ∉ s.missingSerial) :
    (chs.foldl HvLists.moveToFixedBad s).Classified ∧
      (chs.foldl HvLists.moveToFixedBad s).missingSerial = s.missingSerial ∧
      ∀ x, x ∈ (chs.foldl HvLists.moveToFixedBad s).fixedBad ↔ x ∈ s.fixedBad ∨ x ∈ chs := by
  induction chs generalizing s with
  | nil => exact ⟨hs, rfl, by simp⟩
  | cons ch chs ih =>
    obtain ⟨hc, hm, hmem⟩ := ih (s.moveToFixedBad ch)
      (hs.moveToFixedBad (h ch List.mem_cons_self)) fun x hx => h x (List.mem_cons_of_mem _ hx)
    refine ⟨hc, hm, fun x => ?_⟩
    rw [List.foldl_cons, hmem, HvLists.mem_moveToFixedBad, List.mem_cons, or_assoc]

theorem foldl_removeFromFixedBad (chs : List Int) (s : HvLists) (hs : s.Classified)
    (h : ∀ ch ∈ chs, ch ∉ s.missingSerial) :
    (chs.foldl HvLists.removeFromFixedBad s).Classified ∧
      (chs.foldl HvLists.removeFromFixedBad s).missingSerial = s.missingSerial ∧
      ∀ x, x ∉ chs → x ∈ s.fixedBad → x ∈ (chs.foldl HvLists.removeFromFixedBad s).fixedBad := by
  induction chs generalizing s with
  | nil => exact ⟨hs, rfl, fun _ _ hx => hx⟩
  | cons ch chs ih =>
    obtain ⟨hc, hm, hmem⟩ := ih (s.removeFromFixedBad ch)
      (hs.removeFromFixedBad (h ch List.mem_cons_self)) fun x hx => h x (List.mem_cons_of_mem _ hx)
    refine ⟨hc, hm, fun x hx hf => hmem x (fun hmem => hx (List.mem_cons_of_mem _ hmem)) ?_⟩
    have hne : x ≠ ch := fun heq => hx (List.mem_cons.2 (.inl heq))
    exact (HvLists.mem_removeFromFixedBad_of_ne hne).2 hf

/-- The new set of marks: the channels of the list are fixed bad afterwards. -/
theorem setFixedBadChannels_ok {s s' : HvLists} {chs : List Int} (hs : s.Classified)
    (h : ∀ ch ∈ requested (.list chs), ch ∉ s.missingSerial)
    (hset : s.setFixedBadChannels chs = .ok s') :
    hvChannelsDefinition (.list chs) = .ok chs ∧ s'.Classified ∧ ∀ x ∈ chs, x ∈ s'.fixedBad := by
  unfold HvLists.setFixedBadChannels at hset
  unfold requested at h
  cases hd : hvChannelsDefinition (.list chs) with
  | error e =>
    rw [hd] at hset
    cases hset
  | ok defined =>
    rw [hd] at h
    obtain rfl : defined = chs := by
      unfold hvChannelsDefinition at hd
      split at hd
      · cases hd
      · exact (Except.ok.inj hd).symm
    rw [hd] at hset
    obtain rfl := Except.ok.inj hset
    obtain ⟨hc, hm, hkept⟩ := foldl_removeFromFixedBad
      (sorted (s.fixedBad.dedup.filter (· ∉ defined.dedup))) s hs fun ch hch => by
        rw [mem_sorted, List.mem_filter, List.mem_dedup] at hch
        exact hs.not_missingSerial hch.1
    obtain ⟨hc', -, hadded⟩ := foldl_moveToFixedBad
      (sorted (defined.dedup.filter (· ∉ s.fixedBad.dedup))) _ hc fun ch hch => by
        rw [mem_sorted, List.mem_filter, List.mem_dedup] at hch
        rw [hm]
        exact h ch hch.1
    refine ⟨rfl, hc', fun x hx => (hadded x).2 ?_⟩
    by_cases hf : x ∈ s.fixedBad
    · refine .inl (hkept x (fun hmem => ?_) hf)
      rw [mem_sorted, List.mem_filter, List.mem_dedup] at hmem
      simp [hx] at hmem
    · refine .inr ?_
      rw [mem_sorted, List.mem_filter, List.mem_dedup]
      exact ⟨hx, by simpa using hf⟩

/-! ## Steps -/

/-- After a step from a service that classifies its channels: it still does, it has powered no
fixed-bad channel on, and the marks are the ones the step leaves. -/
structure StepSafe (s : HvService) (a : HvStep × HvBus) : Prop where
  classified : (s.step a).1.hv.Classified
  unpowered : ∀ ch ∈ s.hv.fixedBad, HvCall.powerOn ch ∉ (s.step a).2
  marked : ∀ ch, a.1.marks ch → ch ∈ (s.step a).1.hv.fixedBad
  kept : ∀ ch ∈ s.hv.fixedBad, ¬ a.1.unmarks ch → ch ∈ (s.step a).1.hv.fixedBad

theorem serving_of_classified {s : HvLists} {calls : List HvCall} (hs : s.Classified)
    (hcalls : ∀ ch, HvCall.powerOn ch ∉ calls) :
    Serving s.fixedBad s.missingSerial { state := s, calls := calls } :=
  ⟨hs, rfl, rfl, fun ch _ => hcalls ch⟩

theorem serving_start {s : HvLists} (hs : s.Classified) :
    Serving s.fixedBad s.missingSerial { state := s } :=
  serving_of_classified hs fun _ => List.not_mem_nil

/-- A step that keeps the fixed-bad channels as they are. -/
theorem StepSafe.of_holding {s : HvService} {a : HvStep × HvBus}
    (h : Holding s.hv.fixedBad (HvService.program s.hvPolicy a.1 a.2 { state := s.hv }).2)
    (hm : ∀ ch, ¬ a.1.marks ch) : StepSafe s a := by
  obtain ⟨M, h⟩ := h
  exact {
    classified := h.classified
    unpowered := h.unpowered
    marked := fun ch hch => absurd hch (hm ch)
    kept := fun ch hch _ => h.fixedBad ▸ hch }

theorem Ends.holding {r : Except String α × World HvLists HvCall}
    (h : Ends (fun _ => Holding F) (Holding F) r) : Holding F r.2 := by
  obtain ⟨_ | _, w⟩ := r <;> exact h

theorem keeps_executeResponse {I : World HvLists HvCall → Prop} {policy : HvPolicy}
    {request : HvRequest} (h : Keeps bus I (HV.handle request)) :
    Keeps bus I (HvService.executeResponse policy request) := by
  unfold HvService.executeResponse
  split
  · exact keeps_try h fun _ => keeps_pure _
  · exact keeps_pure _

/-- A step that makes no call and ends with the lists `s'`. -/
theorem StepSafe.of_moves {s : HvService} {a : HvStep × HvBus} {s' : HvLists}
    (h : (HvService.program s.hvPolicy a.1 a.2 { state := s.hv }).2 = { state := s' })
    (hc : s'.Classified) (hm : ∀ ch, a.1.marks ch → ch ∈ s'.fixedBad)
    (hk : ∀ ch ∈ s.hv.fixedBad, ¬ a.1.unmarks ch → ch ∈ s'.fixedBad) : StepSafe s a := by
  have hs : (s.step a).1.hv = s' := congrArg World.state h
  have hcalls : (s.step a).2 = [] := congrArg World.calls h
  exact {
    classified := hs ▸ hc
    unpowered := fun ch _ => hcalls ▸ List.not_mem_nil
    marked := fun ch hch => hs ▸ hm ch hch
    kept := fun ch hch hu => hs ▸ hk ch hch hu }

theorem setFixedBadChannels_safe {s : HvService} {chs : List Int} (hs : s.hv.Classified)
    (h : ∀ ch ∈ requested (.list chs), ch ∉ s.hv.missingSerial) :
    StepSafe s (.setFixedBadChannels chs, bus) := by
  have hrun : (HvService.program s.hvPolicy (.setFixedBadChannels chs) bus { state := s.hv }).2 =
      { state := (s.hv.setFixedBadChannels chs).toOption.getD s.hv } := by
    have hlists : HV.getLists bus { state := s.hv } = (.ok s.hv, { state := s.hv }) := rfl
    unfold HvService.program
    dsimp only
    rw [bind_of_ok hlists]
    cases s.hv.setFixedBadChannels chs <;> rfl
  cases hset : s.hv.setFixedBadChannels chs with
  | ok s' =>
    rw [hset] at hrun
    obtain ⟨hd, hc, hmem⟩ := setFixedBadChannels_ok hs h hset
    exact StepSafe.of_moves hrun hc (fun ch hch => hmem ch (mem_requested hch).2.2)
      fun ch _ hu => hmem ch (by_contra fun hn => hu ⟨hd, hn⟩)
  | error e =>
    rw [hset] at hrun
    refine StepSafe.of_moves hrun hs (fun ch hch => ?_) fun ch hch _ => hch
    replace hch : ch ∈ requested (.list chs) := hch
    unfold HvLists.setFixedBadChannels at hset
    unfold requested at hch
    cases hd : hvChannelsDefinition (.list chs) with
    | error _ =>
      rw [hd] at hch
      cases hch
    | ok defined =>
      rw [hd] at hset
      cases hset

/-- The marks of a list of channels, as one update; an argument that is not accepted marks none. -/
theorem moveAll_moves (bus : HvBus) (channels : ChannelsArg) (move : Int → HvLists → HvLists)
    (s : HvLists) :
    ∃ response, HV.moveAll channels (fun ch => modify (move ch)) bus { state := s } =
      (.ok response, { state := (requested channels).foldl (fun s ch => move ch s) s }) := by
  unfold HV.moveAll requested
  cases hvChannelsDefinition channels with
  | error e => exact ⟨_, rfl⟩
  | ok defined => exact ⟨_, bind_of_ok (forEach_modify move defined { state := s })⟩

theorem executeResponse_moves {policy : HvPolicy} {request : HvRequest} {channels : ChannelsArg}
    {move : Int → HvLists → HvLists} (s : HvLists) (hallow : policy.allows request = true)
    (hr : HV.handle request = HV.moveAll channels fun ch => modify (move ch)) :
    (HvService.program policy (.request request) bus { state := s }).2 =
      { state := (requested channels).foldl (fun s ch => move ch s) s } := by
  obtain ⟨response, h⟩ := moveAll_moves bus channels move s
  have hrun : HvService.executeResponse policy request bus { state := s } = (.ok response,
      { state := (requested channels).foldl (fun s ch => move ch s) s }) := by
    unfold HvService.executeResponse
    split
    next => exact tryExcept_of_ok (hr ▸ h)
    next hnot => exact absurd hallow hnot
  exact congrArg Prod.snd (bind_of_ok (k := fun _ => pure ()) hrun)

theorem step_safe {s : HvService} {a : HvStep × HvBus} (hs : s.hv.Classified)
    (h : Spares s.hv a.2 a.1) : StepSafe s a := by
  obtain ⟨a, bus⟩ := a
  have hstart := (serving_start hs).holding
  cases a with
  | setPolicy p => exact StepSafe.of_holding hstart fun _ => nofun
  | checkMissingSerial =>
    refine StepSafe.of_holding (Ends.holding (α := Unit) ?_) fun _ => nofun
    have hok : ∀ ch ∈ s.hv.okCh, ch ∉ s.hv.fixedBad := fun ch hch hf =>
      hs.inService (.inl hch) (.inl hf)
    exact keeps_bind (keeps_checkMissingSerial hok) (fun _ => keeps_pure ()) { state := s.hv } hstart
  | setFixedBadChannels chs => exact setFixedBadChannels_safe hs h
  | request request =>
    cases hr : request.reclassifies with
    | false =>
      refine StepSafe.of_holding (Ends.holding (α := Unit) ?_) fun ch hm => ?_
      · exact (keeps_bind (keeps_executeResponse (keeps_handle rfl rfl hr h)) fun _ =>
          keeps_pure ()) { state := s.hv } (serving_start hs) |>.imp (fun _ _ h => h.holding)
            fun _ h => h.holding
      · cases request <;> first | exact hm | cases hr
    | true =>
      cases request with
      | hvSetUserBad chs =>
        obtain ⟨hc, -, hmem⟩ := foldl_moveToFixedBad (requested chs) s.hv hs h
        refine StepSafe.of_moves (executeResponse_moves s.hv (by cases s.hvPolicy <;> rfl) rfl)
          hc (fun ch hch => (hmem ch).2 (.inr hch)) fun ch hch _ => (hmem ch).2 (.inl hch)
      | hvUnsetUserBad chs =>
        obtain ⟨hc, -, hmem⟩ := foldl_removeFromFixedBad (requested chs) s.hv hs h
        refine StepSafe.of_moves (executeResponse_moves s.hv (by cases s.hvPolicy <;> rfl) rfl)
          hc (fun ch => nofun) fun ch hch hu => hmem ch hu hch
      | setPmtSerials serials =>
        refine StepSafe.of_holding (Ends.holding (α := Unit) ?_) fun _ => nofun
        exact keeps_bind (keeps_executeResponse (keeps_setPmtSerials h)) (fun _ => keeps_pure ())
          { state := s.hv } hstart
      | _ => cases hr

/-! ## Start -/

theorem count_filter_map {p : Int × α → Bool} (x : Int) (l : List (Int × α)) :
    ((l.filter p).map Prod.fst).count x + ((l.filter (!p ·)).map Prod.fst).count x =
      (l.map Prod.fst).count x := by
  induction l with
  | nil => rfl
  | cons e l ih =>
    cases hp : p e <;> simp only [List.filter_cons, hp, Bool.not_true, Bool.not_false, if_true,
      Bool.false_eq_true, if_false, List.map_cons, List.count_cons] <;> omega

/-- No channel has been classified or powered on. -/
def Scanning (w : World HvLists HvCall) : Prop :=
  Serving [] [] w ∧ ∀ ch, HvCall.powerOn ch ∉ w.calls

theorem Scanning.issue (h : Scanning w) : Scanning (w.issue (.readAddress ch)) := by
  refine ⟨h.1.issue fun _ => nofun, fun x hmem => ?_⟩
  rcases List.mem_append.1 hmem with hmem | hmem
  · exact h.2 x hmem
  · exact nomatch List.mem_singleton.1 hmem

theorem scanning_start : Scanning { state := {} } :=
  ⟨⟨fun _ => Nat.zero_le _, rfl, rfl, fun _ h => nomatch h⟩, fun _ => List.not_mem_nil⟩

theorem triple_checkChannel {channels : List Int} :
    Triple bus Scanning (HV.checkChannel channels)
      (fun r w => Scanning w ∧ ∀ ch, r.1.count ch + r.2.count ch = channels.count ch)
      fun _ => False := by
  refine triple_bind (triple_mapEach fun ch _ => answers_attempt_recover
    (keeps_addressAnswers fun _ h => h.issue) (answers_pure ())) fun outcomes =>
      triple_pure fun w hw => ⟨hw.1, fun ch => ?_⟩
  have h := count_filter_map (p := fun o => decide (o.2 = some true)) ch outcomes
  rw [hw.2] at h
  simpa only [ne_eq, decide_not] using h

theorem nodup_scanChannels (fixedBadChannels : List Int) (ch : Int) :
    ((ChannelsArg.all.chList 7).filter (· ∉ fixedBadChannels)).count ch ≤ 1 :=
  List.nodup_iff_count_le_one.1 (List.Nodup.filter _ (by decide)) ch

theorem triple_init (bus : HvBus) (fixedBadChannels : List Int) :
    Triple bus Scanning (HV.init fixedBadChannels)
      (fun _ w => w.state.Classified ∧ ∀ ch ∈ fixedBadChannels, ch ∈ w.state.fixedBad)
      (fun w => w.state.Classified ∧ ∀ ch ∈ fixedBadChannels, ch ∈ w.state.fixedBad) := by
  refine triple_bind (triple_checkChannel.conseq (fun _ h => h) (fun _ _ h => h)
    fun _ h => h.elim) fun r w hw => ?_
  obtain ⟨ok, bad⟩ := r
  obtain ⟨⟨-, hquiet⟩, hcount⟩ := hw
  have hscan : ({ okCh := ok, badCh := bad } : HvLists).Classified := fun ch => by
    have hle := nodup_scanChannels fixedBadChannels ch
    rw [← hcount ch] at hle
    simpa only [HvLists.classes, List.count_nil, Nat.add_zero] using hle
  obtain ⟨hc, -, hmem⟩ := foldl_moveToFixedBad fixedBadChannels _ hscan fun _ _ =>
    List.not_mem_nil
  have hscanned : (modify (fun _ => { okCh := ok, badCh := bad }) : HvM Unit) bus w =
      (.ok (), w.update fun _ => { okCh := ok, badCh := bad }) := rfl
  have hrun : (modify (fun _ => { okCh := ok, badCh := bad }) >>= fun _ =>
      forEach fixedBadChannels HV.moveToFixedBad : HvM Unit) bus w = (.ok (), { w with
        state := fixedBadChannels.foldl HvLists.moveToFixedBad { okCh := ok, badCh := bad } }) :=
    (bind_of_ok hscanned).trans
      (forEach_modify (fun ch s => HvLists.moveToFixedBad s ch) fixedBadChannels _)
  have hserving := serving_of_classified hc fun ch => hquiet ch
  show Ends _ _ (((modify (fun _ => { okCh := ok, badCh := bad }) >>= fun _ =>
    forEach fixedBadChannels HV.moveToFixedBad) >>= fun _ =>
      HV.getOkChannels >>= HV.syncPowerState true : HvM Unit) bus w)
  rw [bind_of_ok hrun]
  refine (respected_serving.getOkChannels_bind (fun okCh hok => respected_serving.syncPowerState true okCh hok) _
    hserving).imp (fun _ w' h => ?_) fun w' h => ?_
  · exact ⟨h.classified, fun ch hch => h.fixedBad ▸ (hmem ch).2 (.inr hch)⟩
  · exact ⟨h.classified, fun ch hch => h.fixedBad ▸ (hmem ch).2 (.inr hch)⟩

/-- A new service classifies its channels and has the given ones as fixed bad. -/
theorem started_classified (fixedBadChannels : List Int) (bus : HvBus) (policy : HvPolicy) :
    (HvService.started fixedBadChannels bus policy).hv.Classified ∧
      ∀ ch ∈ fixedBadChannels, ch ∈ (HvService.started fixedBadChannels bus policy).hv.fixedBad := by
  have h := triple_init bus fixedBadChannels _ scanning_start
  unfold HvService.started
  rcases hr : HV.init fixedBadChannels bus { state := {} } with ⟨_ | _, w⟩ <;> rw [hr] at h <;>
    exact h

end Steps

/-! ## Runs -/

/-- The service after the steps of a run. -/
abbrev HvService.after (s : HvService) (as : List (HvStep × HvBus)) : HvService :=
  finalState HvService.step s as

/-- The condition of a step in the state it is taken in. -/
def SparesStep (s : HvService) (a : HvStep × HvBus) : Prop := Spares s.hv a.2 a.1

/-- The marks that a step leaves, by the step and by what comes after it. -/
theorem markedSince_cons {fixedBadChannels : List Int} {a : HvStep} {as : List HvStep} {ch : Int}
    (h : MarkedSince fixedBadChannels (a :: as) ch) :
    (ch ∈ fixedBadChannels ∧ ¬ a.unmarks ch ∨ a.marks ch) ∧ (∀ b ∈ as, ¬ b.unmarks ch) ∨
      ∃ before b after, as = before ++ b :: after ∧ b.marks ch ∧ ∀ c ∈ after, ¬ c.unmarks ch := by
  rcases h with ⟨hch, hu⟩ | ⟨before, b, after, heq, hb, hafter⟩
  · have hu := List.forall_mem_cons.1 hu
    exact .inl ⟨.inl ⟨hch, hu.1⟩, hu.2⟩
  · cases before with
    | nil =>
      obtain ⟨rfl, rfl⟩ := List.cons.inj heq
      exact .inl ⟨.inr hb, hafter⟩
    | cons c before =>
      obtain ⟨-, rfl⟩ := List.cons.inj heq
      exact .inr ⟨before, b, after, rfl, hb, hafter⟩

/-- A run of steps that spare the channels out of service classifies the channels, and a channel
that has been marked and not unmarked is fixed bad. -/
theorem run_safe : ∀ (as : List (HvStep × HvBus)) (s : HvService) (fixedBadChannels : List Int),
    s.hv.Classified → (∀ ch ∈ fixedBadChannels, ch ∈ s.hv.fixedBad) →
    Meets (fun s a => (HvService.step s a).1) SparesStep s as →
    (s.after as).hv.Classified ∧
      ∀ ch, MarkedSince fixedBadChannels (as.map Prod.fst) ch → ch ∈ (s.after as).hv.fixedBad
  | [], s, _, hs, hfixed, _ => by
    refine ⟨hs, fun ch h => ?_⟩
    rcases h with ⟨hch, -⟩ | ⟨before, a, after, heq, -, -⟩
    · exact hfixed ch hch
    · cases before <;> cases heq
  | a :: as, s, fixedBadChannels, hs, hfixed, hm => by
    have hstep := step_safe hs hm.1
    -- the channels that are marked after the step and never unmarked again
    have hmarked : ∀ ch, MarkedSince fixedBadChannels ((a :: as).map Prod.fst) ch →
        MarkedSince ((s.step a).1.hv.fixedBad) (as.map Prod.fst) ch := by
      intro ch h
      rcases markedSince_cons h with ⟨⟨hch, hu⟩ | hmark, hafter⟩ | h
      · exact .inl ⟨hstep.kept ch (hfixed ch hch) hu, hafter⟩
      · exact .inl ⟨hstep.marked ch hmark, hafter⟩
      · exact .inr h
    obtain ⟨hc, hmem⟩ := run_safe as (s.step a).1 (s.step a).1.hv.fixedBad hstep.classified (fun _ h => h) hm.2
    exact ⟨hc, fun ch h => hmem ch (hmarked ch h)⟩

/-- In a run whose steps reclassify no channel out of service, the classes are disjoint in every
state, and no channel is powered on while it is marked fixed bad. -/
theorem fixedBad_unpowered (fixedBadChannels : List Int) (bus : HvBus) (policy : HvPolicy)
    (as : List (HvStep × HvBus))
    (h : Meets (fun s a => (HvService.step s a).1) SparesStep
      (HvService.started fixedBadChannels bus policy) as) :
    (∀ pre, pre <+: as →
      let s := ((HvService.started fixedBadChannels bus policy).after pre).hv
      [s.okCh, s.badCh, s.fixedBad, s.missingSerial].Pairwise List.Disjoint) ∧
    ∀ pre a post, as = pre ++ a :: post → ∀ ch,
      MarkedSince fixedBadChannels (pre.map Prod.fst) ch →
      HvCall.powerOn ch ∉ (((HvService.started fixedBadChannels bus policy).after pre).step a).2 := by
  obtain ⟨hc, hfixed⟩ := started_classified fixedBadChannels bus policy
  constructor
  · rintro pre ⟨post, rfl⟩
    exact (run_safe pre _ _ hc hfixed ((meets_append _ pre post).1 h).1).1.pairwise
  · rintro pre a post rfl ch hch
    obtain ⟨hpre, hpost⟩ := (meets_append _ pre (a :: post)).1 h
    obtain ⟨hclass, hmarked⟩ := run_safe pre _ _ hc hfixed hpre
    exact (step_safe hclass hpost.1).unpowered ch (hmarked ch hch)

/-! ## On fixed boards -/

theorem fixedBad_unpowered_answering :
    HvCall.powerOn 2 ∉ (((HvService.started [3] answeringBus .fullControl).after
      [(.request (.hvSetUserBad (.list [2])), answeringBus),
        (.request (.hvForceOff .all), answeringBus)]).step
      (.request (.hvOn .all), answeringBus)).2 := by
  refine (fixedBad_unpowered [3] answeringBus .fullControl
    [(.request (.hvSetUserBad (.list [2])), answeringBus),
      (.request (.hvForceOff .all), answeringBus), (.request (.hvOn .all), answeringBus)]
    ⟨?_, ?_, trivial, trivial⟩).2 _ _ [] rfl 2 (.inr ⟨[], _, _, rfl, ?_, ?_⟩)
  · intro ch _ hm
    have hnone : (HvService.started [3] answeringBus .fullControl).hv.missingSerial = [] := by
      decide +kernel
    exact nomatch hnone ▸ hm
  · exact fun _ _ _ _ => ⟨(), rfl, trivial⟩
  · show (2 : Int) ∈ requested (.list [2])
    decide
  · intro b hb
    obtain rfl := List.mem_singleton.1 hb
    exact fun h => h

/-- Channel 3 is fixed bad. Its power state is asked and cannot be read, which puts it into the bad
list; the recovery finds that it answers and makes it OK; then it is powered on. -/
theorem fixedBad_powered_on :
    let s := (HvService.started [3] answeringBus .fullControl).after
      [(.request (.getPowerStateChannels (.list [3])), silentOn (.getStatus 3)),
        (.request .checkRecoveryBad, answeringBus)]
    MarkedSince [3] [.request (.getPowerStateChannels (.list [3])), .request .checkRecoveryBad] 3 ∧
      HvCall.powerOn 3 ∈ (s.step (.request (.hvOn (.list [3])), answeringBus)).2 ∧
      ¬ [s.hv.okCh, s.hv.badCh, s.hv.fixedBad, s.hv.missingSerial].Pairwise List.Disjoint := by
  refine ⟨.inl ⟨by decide, ?_⟩, by decide +kernel, fun h => ?_⟩
  · intro b hb
    rcases List.mem_pair.1 hb with rfl | rfl <;> exact fun h => h
  · have hok := (List.pairwise_cons.1 h).1 _ (.tail _ (.head _))
    exact hok (a := 3) (by decide +kernel) (by decide +kernel)

end MultiDAQ.Client
