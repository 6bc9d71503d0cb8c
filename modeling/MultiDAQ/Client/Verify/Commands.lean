import MultiDAQ.Client.Verify.CommandRules

/-!
# What the HV commands keep

While a command runs, `Serving F M` says that every channel is in at most one class, that the
channels of `F` are the fixed-bad ones and those of `M` the ones without a serial, and that no
channel of `F` has been powered on. A command on the OK and bad channels keeps it, whatever the boards
answer (`respected_serving`). One that also acts on channels out of service keeps it under a condition
on the answers of these: `Spares s bus request` collects the conditions.
-/

namespace MultiDAQ.Client

open MultiDAQ.Lib MultiDAQ.Lib.Interaction

structure Serving (F M : List Int) (w : World HvLists HvCall) : Prop where
  classified : w.state.Classified
  fixedBad : w.state.fixedBad = F
  missingSerial : w.state.missingSerial = M
  unpowered : ∀ ch ∈ F, HvCall.powerOn ch ∉ w.calls

/-- A channel that is fixed bad or without a serial. -/
def Out (F M : List Int) (ch : Int) : Prop := ch ∈ F ∨ ch ∈ M

section Keeping

variable {F M : List Int} {bus : HvBus} {w : World HvLists HvCall} {ch : Int} {α β : Type}

theorem Serving.out (h : Serving F M w) : w.state.OutOfService ch ↔ Out F M ch := by
  unfold HvLists.OutOfService Out
  rw [h.fixedBad, h.missingSerial]

theorem Serving.issue (h : Serving F M w) {c : HvCall} (hc : ∀ ch ∈ F, c ≠ .powerOn ch) :
    Serving F M (w.issue c) where
  classified := h.classified
  fixedBad := h.fixedBad
  missingSerial := h.missingSerial
  unpowered := fun ch hch hmem => by
    rcases List.mem_append.1 hmem with hmem | hmem
    · exact h.unpowered ch hch hmem
    · exact hc ch hch (List.mem_singleton.1 hmem).symm

/-- A move that classifies the channels and leaves the ones out of service alone. -/
theorem Serving.update (h : Serving F M w) {f : HvLists → HvLists} (hc : (f w.state).Classified)
    (hf : (f w.state).fixedBad = w.state.fixedBad)
    (hm : (f w.state).missingSerial = w.state.missingSerial) : Serving F M (w.update f) where
  classified := hc
  fixedBad := hf.trans h.fixedBad
  missingSerial := hm.trans h.missingSerial
  unpowered := h.unpowered

/-! ## Calls and moves -/

theorem keeps_unpowered {c : HvCall} (hc : ∀ ch, c ≠ .powerOn ch) :
    Keeps bus (Serving F M) (call c) :=
  keeps_call fun _ h => h.issue fun ch _ => hc ch

theorem answers_unpowered {c : HvCall} {V : c.Value → Prop} (hc : ∀ ch, c ≠ .powerOn ch)
    (hV : bus.Gives c V) : Answers bus (Serving F M) (call c) :=
  (triple_call_gives hV fun _ h => h.issue fun ch _ => hc ch).conseq (fun _ h => h)
    (fun _ _ h => h.1) fun _ h => h

theorem answers_moveToOn : Answers bus (Serving F M) (HV.moveToOn ch) :=
  answers_modify fun _ h => h.update h.classified.moveToOn HvLists.moveToOn_fixedBad
    HvLists.moveToOn_missingSerial

theorem answers_moveToOff : Answers bus (Serving F M) (HV.moveToOff ch) :=
  answers_modify fun _ h => h.update h.classified.moveToOff rfl rfl

/-- The channels in service are the ones that a command may reclassify. -/
theorem respected_serving : Respected (fun ch => ¬ Out F M ch) (Serving F M) where
  issue hc h := h.issue fun ch _ => hc ch
  moveToOk hch h := h.update (h.classified.moveToOk fun ho => hch (h.out.1 ho)) rfl rfl
  moveToBad hch h := h.update (h.classified.moveToBad fun ho => hch (h.out.1 ho)) rfl rfl
  moveToOn h := h.update h.classified.moveToOn HvLists.moveToOn_fixedBad
    HvLists.moveToOn_missingSerial
  moveToOff h := h.update h.classified.moveToOff rfl rfl
  ok h _ hch ho := h.classified.inService (.inl hch) (h.out.2 ho)
  bad h _ hch ho := h.classified.inService (.inr hch) (h.out.2 ho)

theorem powersOn_serving : PowersOn (fun ch => ¬ Out F M ch) (Serving F M) :=
  fun _ _ hch h => h.issue fun _ hx heq => hch (.inl (HvCall.powerOn.inj heq ▸ hx))

/-! ## Power -/

/-- An operation on all requested channels: the ones out of service answer it. -/
theorem keeps_allChannels {channels : ChannelsArg} {action : Int → HvM Unit}
    (ha : ∀ ch, Keeps bus (Serving F M) (action ch))
    (hout : ∀ ch ∈ requested channels, Out F M ch → Answers bus (Serving F M) (action ch)) :
    Keeps bus (Serving F M) (HV.allChannels channels action) := by
  refine keeps_withLists (keeps_channelsDefinition_bind ?_)
  refine keeps_bind (keeps_mapEach fun ch hch => ?_) fun _ => keeps_pure _
  by_cases ho : Out F M ch
  · exact (answers_attempt (hout ch hch ho)).keeps
  · exact keeps_attempt (ha ch) (respected_serving.keeps_moveToBad ho)

theorem answers_powerOffChannel {V : Unit → Prop} (hV : bus.Gives (.powerOff ch) V) :
    Answers bus (Serving F M) (HV.powerOffChannel ch) :=
  answers_bind (answers_unpowered (fun _ => nofun) hV) fun _ => answers_moveToOff

/-! ## Readings of all channels -/

/-- A channel whose status can be read and is not TRIP is not reclassified. -/
theorem answers_awaitPowerState
    (hst : bus.Gives (.getStatus ch) fun code => statusString code ≠ .trip) :
    ∀ polls, Answers bus (Serving F M) (HV.awaitPowerState ch polls) := by
  have hread : Triple bus (Serving F M) (HVModBus.getStatus ch)
      (fun status w => Serving F M w ∧ status ≠ .trip) fun _ => False :=
    triple_map (triple_call_gives hst fun _ h => h.issue fun _ _ => nofun)
  intro polls
  induction polls with
  | zero =>
    unfold HV.awaitPowerState
    refine triple_bind hread fun status w hw => ?_
    cases status with
    | up => exact answers_bind answers_moveToOn (fun _ => answers_pure _) w hw.1
    | down => exact answers_bind answers_moveToOff (fun _ => answers_pure _) w hw.1
    | trip => exact absurd rfl hw.2
    | _ => exact answers_pure none w hw.1
  | succ polls ih =>
    unfold HV.awaitPowerState
    refine triple_bind hread fun status w hw => ?_
    cases status with
    | up => exact answers_bind answers_moveToOn (fun _ => answers_pure _) w hw.1
    | down => exact answers_bind answers_moveToOff (fun _ => answers_pure _) w hw.1
    | trip => exact absurd rfl hw.2
    | undef => exact answers_pure none w hw.1
    | _ => exact ih w hw.1

theorem keeps_getPowerState {channels : ChannelsArg}
    (h : ∀ ch ∈ requested channels, Out F M ch →
      bus.Gives (.getStatus ch) fun code => statusString code ≠ .trip) :
    Keeps bus (Serving F M) (HV.getPowerState channels) := by
  refine keeps_withLists (keeps_channelsDefinition_bind ?_)
  refine keeps_bind (keeps_mapEach fun ch hch => keeps_map ?_) fun _ => keeps_pure _
  by_cases ho : Out F M ch
  · exact (answers_attempt (answers_bind answers_waitRounds fun polls =>
      answers_awaitPowerState (h ch hch ho) polls)).keeps
  · exact keeps_attempt (keeps_bind keeps_waitRounds fun polls =>
      respected_serving.awaitPowerState ho polls) (respected_serving.keeps_moveToBad ho)

/-- The boards answer every electrical reading of the channel. -/
structure AnswersElectrical (bus : HvBus) (ch : Int) : Prop where
  voltage : bus.Gives (.getVoltage ch) fun _ => True
  current : bus.Gives (.getCurrent ch) fun _ => True
  temperature : bus.Gives (.getTemperature ch) fun _ => True

structure AnswersStatusAlarm (bus : HvBus) (ch : Int) : Prop where
  status : bus.Gives (.getStatus ch) fun _ => True
  alarm : bus.Gives (.getAlarm ch) fun _ => True

theorem AnswersElectrical.answers (h : AnswersElectrical bus ch) :
    Answers bus (Serving F M) (HV.readElectrical ch) :=
  answers_bind (answers_unpowered (fun _ => nofun) h.voltage) fun _ =>
    answers_bind (answers_unpowered (fun _ => nofun) h.current) fun _ =>
      answers_bind (answers_unpowered (fun _ => nofun) h.temperature) fun _ => answers_pure _

theorem AnswersStatusAlarm.answers (h : AnswersStatusAlarm bus ch) :
    Answers bus (Serving F M) (HV.readStatusAlarm ch) :=
  answers_bind (answers_map (answers_unpowered (fun _ => nofun) h.status)) fun _ =>
    answers_bind (answers_map (answers_unpowered (fun _ => nofun) h.alarm)) fun _ => answers_pure _

theorem keeps_readChannels {channels : List Int} {action : Int → HvM α}
    (ha : ∀ ch, Keeps bus (Serving F M) (action ch))
    (hout : ∀ ch ∈ channels, Out F M ch → Answers bus (Serving F M) (action ch)) :
    Keeps bus (Serving F M) (HV.readChannels channels action) := by
  refine keeps_bind (keeps_read id) fun lists => ?_
  refine keeps_bind (keeps_mapEach fun ch hch => ?_) fun _ => keeps_pure _
  by_cases ho : Out F M ch
  · exact (answers_attempt (hout ch hch ho)).keeps
  · exact keeps_attempt (ha ch) (respected_serving.keeps_moveToBad ho)

theorem keeps_getChElectrical {channels : ChannelsArg}
    (h : ∀ ch ∈ requested channels, Out F M ch → AnswersElectrical bus ch) :
    Keeps bus (Serving F M) (HV.getChElectrical channels) :=
  keeps_channelsDefinition_bind (keeps_bind (keeps_readChannels (fun _ => respected_serving.readElectrical)
    fun ch hch ho => (h ch hch ho).answers) fun _ => keeps_pure _)

theorem keeps_getChStatusAndAlarm {channels : ChannelsArg}
    (h : ∀ ch ∈ requested channels, Out F M ch → AnswersStatusAlarm bus ch) :
    Keeps bus (Serving F M) (HV.getChStatusAndAlarm channels) :=
  keeps_channelsDefinition_bind (keeps_bind (keeps_readChannels (fun _ => respected_serving.readStatusAlarm)
    fun ch hch ho => (h ch hch ho).answers) fun _ => keeps_pure _)

/-- The snapshot leaves the fixed-bad channels out. -/
theorem keeps_monitorSnapshot {channels : ChannelsArg}
    (h : ∀ ch ∈ requested channels, ch ∉ F → ch ∈ M →
      AnswersElectrical bus ch ∧ AnswersStatusAlarm bus ch) :
    Keeps bus (Serving F M) (HV.monitorSnapshot channels) := by
  refine keeps_withLists (keeps_channelsDefinition_bind ?_)
  refine keeps_read_bind (C := fun lists => lists.fixedBad = F) (fun w hw => hw.fixedBad)
    fun lists hF => ?_
  have hmon : ∀ ch ∈ (requested channels).filter (· ∉ lists.fixedBad), Out F M ch →
      AnswersElectrical bus ch ∧ AnswersStatusAlarm bus ch := by
    intro ch hch ho
    obtain ⟨hreq, hnot⟩ := List.mem_filter.1 hch
    rw [hF] at hnot
    have hnF : ch ∉ F := by simpa using hnot
    exact h ch hreq hnF (ho.resolve_left hnF)
  refine keeps_bind (keeps_readChannels (fun _ => respected_serving.readElectrical)
    fun ch hch ho => (hmon ch hch ho).1.answers) fun _ => ?_
  exact keeps_bind (keeps_readChannels (fun _ => respected_serving.readStatusAlarm)
    fun ch hch ho => (hmon ch hch ho).2.answers) fun _ => keeps_pure _

/-! ## Checks -/

/-- What the address check says. -/
theorem triple_checkAddress : Triple bus (Serving F M) (HVModBus.checkAddress ch)
    (fun answers w => Serving F M w ∧ (answers = true → ¬ bus.Refuses (.readAddress ch)) ∧
      (answers = false → ¬ bus.Gives (.readAddress ch) fun _ => True)) fun _ => False := by
  have hread : Triple bus (Serving F M) (call (HvCall.readAddress ch)) (fun _ w => Serving F M w ∧
      ¬ bus.Refuses (.readAddress ch)) fun w =>
        Serving F M w ∧ ¬ bus.Gives (.readAddress ch) fun _ => True := by
    refine triple_call (fun w a hw ha => ?_) fun w e hw he => ?_
    · refine ⟨hw.issue fun _ _ => nofun, fun hr => ?_⟩
      obtain ⟨e, he⟩ := hr (w.calls.count (.readAddress ch))
      rw [ha] at he
      cases he
    · refine ⟨hw.issue fun _ _ => nofun, fun hg => ?_⟩
      obtain ⟨a, ha, -⟩ := hg (w.calls.count (.readAddress ch))
      rw [he] at ha
      cases ha
  exact triple_try (triple_map (hread.conseq (fun _ h => h) (fun _ _ h => ⟨h.1, fun _ => h.2, nofun⟩)
    fun _ h => h)) fun _ => triple_pure fun _ h => ⟨h.1, nofun, fun _ => h.2⟩

/-- A channel with a valid address that answers is not moved by the presence check. -/
theorem keeps_checkPresence (h : Out F M ch →
    HVModBus.checkAddressBoundary ch ∧ bus.Gives (.readAddress ch) fun _ => True) :
    Keeps bus (Serving F M) (HV.checkPresence ch) := by
  unfold HV.checkPresence
  split
  next =>
    refine triple_bind (triple_checkAddress.imp_error fun _ hw => hw.elim)
      fun answers w hw => ?_
    cases answers with
    | true => exact keeps_pure none w hw.1
    | false =>
      have hin : ¬ Out F M ch := fun ho => hw.2.2 rfl (h ho).2
      exact keeps_bind (respected_serving.keeps_moveToBad hin) (fun _ => keeps_pure _) w hw.1
  next hb =>
    have hin : ¬ Out F M ch := fun ho => hb (h ho).1
    exact keeps_bind (respected_serving.keeps_moveToBad hin) fun _ => keeps_pure _

/-- The synchronisation leaves the fixed-bad channels out. -/
theorem keeps_hvSync {channels : ChannelsArg}
    (h : ∀ ch ∈ requested channels, ch ∉ F → ch ∈ M → bus.Gives (.readAddress ch) fun _ => True) :
    Keeps bus (Serving F M) (HV.hvSync channels) := by
  refine keeps_withLists (keeps_channelsDefinition_bind ?_)
  refine keeps_read_bind (C := fun fixedBad => fixedBad = F) (fun w hw => hw.fixedBad)
    fun fixedBad hF => ?_
  refine keeps_bind respected_serving.recoverBadChannels fun _ => keeps_bind ?_ fun _ =>
    keeps_bind respected_serving.checkChannelPower fun _ => keeps_pure _
  refine keeps_withLists (keeps_bind (keeps_mapEach fun ch hch => keeps_checkPresence fun ho => ?_)
    fun _ => keeps_pure _)
  obtain ⟨hreq, hnot⟩ := List.mem_filter.1 hch
  rw [hF] at hnot
  have hnF : ch ∉ F := by simpa using hnot
  obtain ⟨h1, h7, -⟩ := mem_requested hreq
  refine ⟨?_, h ch hreq hnF (ho.resolve_left hnF)⟩
  exact decide_eq_true ⟨h1, h7.trans (by decide)⟩

/-! ## The safety check -/

/-- What an operation on the OK channels returns is about channels in service. -/
theorem triple_okChannels {channels : ChannelsArg} {action : Int → HvM α}
    {recover : Int → HvM Unit} {data : List (Int × α) → HvData}
    (ha : ∀ ch, ¬ Out F M ch → Keeps bus (Serving F M) (action ch))
    (hr : ∀ ch, ¬ Out F M ch → Keeps bus (Serving F M) (recover ch)) :
    Triple bus (Serving F M) (HV.okChannels channels action recover data)
      (fun r w => Serving F M w ∧ (∀ ch ∈ r.failedChannels, ¬ Out F M ch) ∧
        ∃ entries, r.data = data entries ∧ ∀ ch ∈ entries.map Prod.fst, ¬ Out F M ch)
      (Serving F M) := by
  refine triple_bind (Q := fun _ => Serving F M) keeps_channelsDefinition fun chs => ?_
  refine triple_bind (Q := fun okCh w => Serving F M w ∧ ∀ ch ∈ okCh, ¬ Out F M ch)
    (triple_read fun w h => ⟨h, fun ch hch ho => h.classified.inService (.inl hch) (h.out.2 ho)⟩)
    fun okCh w hw => ?_
  have hin : ∀ ch ∈ chs.filter (· ∈ okCh), ¬ Out F M ch := fun ch hch =>
    hw.2 ch (by simpa using (List.mem_filter.1 hch).2)
  refine triple_bind (triple_mapEach fun ch hch => keeps_attempt (ha ch (hin ch hch))
    (hr ch (hin ch hch))) (fun outcomes => triple_pure fun w' hw' => ?_) w hw.1
  refine ⟨hw'.1, fun ch hch => ?_, HV.successes outcomes, rfl, fun ch hch => ?_⟩
  · obtain ⟨o, ho, rfl⟩ := List.mem_map.1 hch
    exact hin o.1 (hw'.2 ▸ List.mem_map_of_mem (List.mem_filter.1 ho).1)
  · obtain ⟨e, he, rfl⟩ := List.mem_map.1 hch
    exact hin e.1 (hw'.2 ▸ mem_of_mem_successes he)

/-- A channel that was not read is not unsafe. -/
theorem inService_of_isUnsafe {status alarm : HvResult} {ss : List (Int × HvStatus)}
    {as : List (Int × String)} (hs : ∀ ch ∈ status.failedChannels, ¬ Out F M ch)
    (hsd : status.data = .status (HV.dictOf ss)) (hss : ∀ ch ∈ ss.map Prod.fst, ¬ Out F M ch)
    (ha : ∀ ch ∈ alarm.failedChannels, ¬ Out F M ch)
    (had : alarm.data = .alarm (HV.dictOf as)) (has : ∀ ch ∈ as.map Prod.fst, ¬ Out F M ch)
    (hu : HV.isUnsafe (HV.checkedChannel status alarm ch)) : ¬ Out F M ch := by
  unfold HV.isUnsafe HV.checkedChannel at hu
  rw [hsd, had] at hu
  simp only [Bool.or_eq_true, decide_eq_true_eq] at hu
  rcases hu with (hf | ht) | hal
  · rcases hf with hf | hf
    · exact hs ch hf
    · exact ha ch hf
  · exact hss ch (List.mem_map_of_mem (f := Prod.fst) (mem_of_get?_dictOf ht))
  · obtain ⟨a, hget, -⟩ := Option.any_eq_true _ _ |>.1 hal
    exact has ch (List.mem_map_of_mem (f := Prod.fst) (mem_of_get?_dictOf hget))

theorem keeps_checkChannelSafety {channels : List Int} :
    Keeps bus (Serving F M) (HV.checkChannelSafety channels) := by
  refine triple_bind (triple_okChannels (fun _ _ => respected_serving.getStatus)
    fun _ => respected_serving.keeps_moveToBad)
    fun status w hw => ?_
  obtain ⟨hw, hs, ss, hsd, hss⟩ := hw
  refine triple_bind (triple_okChannels (fun _ _ => respected_serving.getAlarm)
    fun _ => respected_serving.keeps_moveToBad)
    (fun alarm w hw => ?_) w hw
  obtain ⟨hw, ha, as, had, has⟩ := hw
  refine keeps_bind (keeps_forEach fun c hc => ?_) (fun _ => keeps_pure _) w hw
  obtain ⟨hmem, hu⟩ := List.mem_filter.1 hc
  obtain ⟨ch, -, rfl⟩ := List.mem_map.1 hmem
  have hin : ¬ Out F M ch := inService_of_isUnsafe hs hsd hss ha had has hu
  refine respected_serving.handleUnsafe hin fun x hx => ?_
  obtain rfl := List.mem_singleton.1 (mem_requested hx).2.2
  exact hin

/-! ## Addresses -/

theorem triple_firstAddress : ∀ addrs : List Int,
    Triple bus (Serving F M) (HVModBus.firstAddress addrs)
      (fun r w => Serving F M w ∧ ∀ addr, r = some addr → ¬ bus.Refuses (.readAddress addr))
      fun _ => False
  | [] => triple_pure fun _ hw => ⟨hw, nofun⟩
  | addr :: rest => by
    refine triple_bind triple_checkAddress fun answers w hw => ?_
    cases answers with
    | true =>
      refine ⟨hw.1, fun a ha => ?_⟩
      obtain rfl : addr = a := Option.some.inj ha
      exact hw.2.1 rfl
    | false => exact triple_firstAddress rest w hw.1

theorem keeps_moveAddress {new old : Int} (h : Out F M new → bus.Refuses (.readAddress new)) :
    Keeps bus (Serving F M) (HV.moveAddress new old) := by
  refine keeps_bind (keeps_attempt (keeps_unpowered fun _ => nofun) (keeps_pure ())) fun _ =>
    keeps_bind respected_serving.resetConnection fun _ => ?_
  refine triple_bind (triple_checkAddress.imp_error fun _ hw => hw.elim)
    fun answers w hw => ?_
  cases answers with
  | true =>
    have hin : ¬ Out F M new := fun ho => hw.2.1 rfl (h ho)
    exact keeps_bind (respected_serving.keeps_moveToOk hin) (fun _ => keeps_pure _) w hw.1
  | false => exact keeps_pure false w hw.1

theorem keeps_changeFebAddress {new : Int} {standardAddr : Option Int}
    (h : Out F M new → bus.Refuses (.readAddress new)) :
    Keeps bus (Serving F M) (HV.changeFebAddress new standardAddr) := by
  refine keeps_try (keeps_bind respected_serving.resetConnection fun _ => ?_) fun _ => keeps_pure _
  refine triple_bind ((triple_firstAddress _).imp_error fun _ hw => hw.elim)
    fun old w hw => ?_
  cases old with
  | none => exact keeps_pure _ w hw.1
  | some old =>
    dsimp only
    split
    next heq =>
      have hin : ¬ Out F M new := fun ho => hw.2 old rfl (heq ▸ h ho)
      exact keeps_bind (respected_serving.keeps_moveToOk hin) (fun _ => keeps_pure _) w hw.1
    next => exact keeps_bind (keeps_moveAddress h) (fun _ => keeps_pure _) w hw.1

end Keeping

end MultiDAQ.Client
