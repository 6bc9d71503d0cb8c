import MultiDAQ.Client.Verify.PowerWait
import MultiDAQ.Client.Verify.Moves
import MultiDAQ.Client.Verify.FixedBad
import MultiDAQ.Client.Verify.SafeState

/-!
# Tidy lists

Whatever becomes of a channel, it is listed once, and a channel that is on is ok and neither off nor
bad: `Tidy` holds at the start and after every step of the service (`started_tidy`, `step_tidy`). A
command for some of the channels moves only these (`keeps_handle`); the ones that set and switch
channels move none to the bad list if they succeed (`triple_handle_success`).
-/

namespace MultiDAQ.Client

open MultiDAQ.Lib MultiDAQ.Lib.Interaction

/-! ## The invariant -/

namespace HvLists

variable {s : HvLists} {ch x : Int}

/-- A channel that is on is ok and not off, and none is both ok and bad. -/
structure TidyAt (s : HvLists) (ch : Int) : Prop where
  ok_of_on : ch ∈ s.onCh → ch ∈ s.okCh
  not_on_and_off : ¬ (ch ∈ s.onCh ∧ ch ∈ s.offCh)
  not_ok_and_bad : ¬ (ch ∈ s.okCh ∧ ch ∈ s.badCh)

structure Tidy (s : HvLists) : Prop where
  increasing : s.Increasing
  tidy : ∀ ch, s.TidyAt ch

theorem tidy_empty : ({} : HvLists).Tidy where
  increasing := ⟨List.Pairwise.nil.sortedLT, List.Pairwise.nil.sortedLT, List.Pairwise.nil.sortedLT,
    List.Pairwise.nil.sortedLT⟩
  tidy _ := ⟨nofun, fun h => List.not_mem_nil h.1, fun h => List.not_mem_nil h.1⟩

theorem ConsistentAt.tidyAt (h : s.ConsistentAt ch) : s.TidyAt ch :=
  ⟨h.ok_of_on, h.not_on_and_off, h.not_ok_and_bad⟩

theorem Tidy.not_on_of_off (h : s.Tidy) (hoff : ch ∈ s.offCh) : ch ∉ s.onCh := fun hon =>
  (h.tidy ch).not_on_and_off ⟨hon, hoff⟩

theorem Tidy.not_on_of_bad (h : s.Tidy) (hbad : ch ∈ s.badCh) : ch ∉ s.onCh := fun hon =>
  (h.tidy ch).not_ok_and_bad ⟨(h.tidy ch).ok_of_on hon, hbad⟩

theorem Tidy.moveToOk (h : s.Tidy) : (s.moveToOk ch).Tidy where
  increasing := h.increasing.moveToOk
  tidy x := by
    obtain ⟨hon, honoff, hokbad⟩ := h.tidy x
    have hok' : x ∈ (s.moveToOk ch).okCh ↔ x ∈ s.okCh ∨ x = ch :=
      (mem_sorted _ _).trans (mem_appendNew _ _ _)
    have hbad' : x ∈ (s.moveToOk ch).badCh ↔ x ≠ ch ∧ x ∈ s.badCh :=
      (mem_sorted _ _).trans (mem_erase_sortedLT h.increasing.bad)
    have hon' : (s.moveToOk ch).onCh = s.onCh := rfl
    have hoff' : x ∈ (s.moveToOk ch).offCh ↔ x ∈ s.offCh ∨ x = ch ∧ ch ∉ s.offCh ∧ ch ∉ s.onCh := by
      refine (mem_sorted _ _).trans ?_
      split <;> grind
    constructor <;> grind

theorem Tidy.moveToBad (h : s.Tidy) : (s.moveToBad ch).Tidy where
  increasing := h.increasing.moveToBad
  tidy x := by
    obtain ⟨hon, honoff, hokbad⟩ := h.tidy x
    constructor <;> simp only [HvLists.moveToBad, mem_sorted, mem_appendNew,
      mem_erase_sortedLT h.increasing.ok, mem_erase_sortedLT h.increasing.on] <;> grind

theorem Tidy.moveToOn (h : s.Tidy) : (s.moveToOn ch).Tidy where
  increasing := h.increasing.moveToOn
  tidy x := by
    unfold HvLists.moveToOn
    split
    next => exact h.tidy x
    next hch =>
      obtain ⟨hon, honoff, hokbad⟩ := h.tidy x
      constructor <;> simp only [mem_sorted, mem_appendNew,
        mem_erase_sortedLT h.increasing.off] <;> grind

theorem Tidy.moveToOff (h : s.Tidy) : (s.moveToOff ch).Tidy where
  increasing := h.increasing.moveToOff
  tidy x := by
    obtain ⟨hon, honoff, hokbad⟩ := h.tidy x
    constructor <;> simp only [HvLists.moveToOff, mem_sorted, mem_appendNew,
      mem_erase_sortedLT h.increasing.on] <;> grind

theorem Tidy.withdraw (h : s.Tidy) : (s.withdraw ch).Tidy where
  increasing := h.increasing.withdraw
  tidy x := by
    obtain ⟨hon, honoff, hokbad⟩ := h.tidy x
    constructor <;> simp only [HvLists.withdraw, mem_sorted, mem_erase_sortedLT h.increasing.ok,
      mem_erase_sortedLT h.increasing.bad, mem_erase_sortedLT h.increasing.on,
      mem_erase_sortedLT h.increasing.off] <;> grind

/-- The fixed-bad and missing-serial lists do not matter. -/
theorem Tidy.marked {fixedBad missingSerial : List Int} (h : s.Tidy) :
    ({ s with fixedBad, missingSerial } : HvLists).Tidy :=
  ⟨⟨h.increasing.ok, h.increasing.bad, h.increasing.on, h.increasing.off⟩, fun x =>
    ⟨(h.tidy x).ok_of_on, (h.tidy x).not_on_and_off, (h.tidy x).not_ok_and_bad⟩⟩

theorem Tidy.foldl {f : HvLists → Int → HvLists} (hf : ∀ {s ch}, Tidy s → (f s ch).Tidy) :
    ∀ (chs : List Int) {s : HvLists}, s.Tidy → (chs.foldl f s).Tidy
  | [], _, h => h
  | _ :: chs, _, h => Tidy.foldl hf chs (hf h)

theorem Tidy.setFixedBadChannels {s' : HvLists} {chs : List Int} (h : s.Tidy)
    (hset : s.setFixedBadChannels chs = .ok s') : s'.Tidy := by
  unfold HvLists.setFixedBadChannels at hset
  cases hdef : hvChannelsDefinition (.list chs) with
  | error e =>
    rw [hdef] at hset
    cases hset
  | ok newFixed =>
    rw [hdef] at hset
    cases hset
    refine Tidy.foldl (fun h => h.withdraw.marked) _ (Tidy.foldl (fun h => ?_) _ h)
    exact h.marked.moveToBad

end HvLists

/-! ## Every run -/

section Runs

theorem respected_tidy : Respected (fun _ => True) fun w => w.state.Tidy where
  issue _ h := h
  moveToOk _ h := h.moveToOk
  moveToBad _ h := h.moveToBad
  moveToOn h := h.moveToOn
  moveToOff h := h.moveToOff
  ok _ _ _ := trivial
  bad _ _ _ := trivial

theorem respectsMarks_tidy : RespectsMarks (fun _ => True) fun w => w.state.Tidy where
  moveToFixedBad _ h := h.withdraw.marked
  removeFromFixedBad _ h := h.marked.moveToBad
  removeFromMissingSerial _ h := h.marked.moveToBad

theorem started_tidy (fixedBadChannels : List Int) (bus : HvBus) (policy : HvPolicy) :
    (HvService.started fixedBadChannels bus policy).hv.Tidy := by
  have h := syncing_startLists fixedBadChannels bus
  refine ⟨h.increasing, fun ch => ?_⟩
  by_cases hch : ch ∈ skippedAtStart bus (scannedOk fixedBadChannels bus)
  · obtain ⟨-, hbad, hon, -⟩ := h.unpowered ch hch
    exact ⟨fun hmem => absurd hmem hon, fun hmem => hon hmem.1, fun hmem => hbad hmem.2⟩
  · exact (h.synced ch hch).tidyAt

theorem keeps_program_tidy (bus : HvBus) (policy : HvPolicy) (a : HvStep) :
    Keeps bus (fun w => w.state.Tidy) (HvService.program policy a) := by
  cases a with
  | request request =>
    refine keeps_bind (keeps_executeResponse ?_) fun _ => keeps_pure ()
    exact respected_tidy.handle respectsMarks_tidy (fun _ _ => trivial) fun _ _ _ _ h => h
  | setPolicy policy => exact keeps_pure ()
  | setFixedBadChannels channels =>
    intro w hw
    have hlists : HV.getLists bus w = (.ok w.state, w) := rfl
    unfold HvService.program
    dsimp only
    rw [bind_of_ok hlists]
    cases hset : w.state.setFixedBadChannels channels with
    | ok lists => exact hw.setFixedBadChannels hset
    | error e => exact hw
  | checkMissingSerial =>
    refine keeps_bind (keeps_read _) fun okCh => keeps_bind ?_ fun _ => keeps_pure ()
    exact respected_tidy.checkMissingSerial fun ch _ => keeps_modify fun _ h => h.withdraw.marked

theorem step_tidy {s : HvService} (h : s.hv.Tidy) (a : HvStep × HvBus) : (s.step a).1.hv.Tidy :=
  (keeps_program_tidy a.2 s.hvPolicy a.1).world h

end Runs

/-! ## Commands for some of the channels -/

/-- What is done to the channel `x` keeps `J`. -/
structure Apart (x : Int) (J : HvLists → Prop) : Prop where
  moveToOk : ∀ {s}, J s → J (s.moveToOk x)
  moveToBad : ∀ {s}, J s → J (s.moveToBad x)
  moveToOn : ∀ {s}, J s → J (s.moveToOn x)
  moveToOff : ∀ {s}, J s → J (s.moveToOff x)

section Apart

variable {J : HvLists → Prop} {bus : HvBus} {ch x : Int} {channels : ChannelsArg}

theorem Apart.elsewhere (h : Apart x J) : Elsewhere x fun w => J w.state :=
  ⟨fun _ hw => hw, h.moveToBad, h.moveToOn, h.moveToOff⟩

theorem apart_tidy (x : Int) : Apart x HvLists.Tidy :=
  ⟨fun h => h.moveToOk, fun h => h.moveToBad, fun h => h.moveToOn, fun h => h.moveToOff⟩

/-- A channel that is not on stays so when another one is moved. -/
theorem apart_notOn (hx : ch ≠ x) : Apart x fun s => ch ∉ s.onCh where
  moveToOk h := h
  moveToBad h := by simpa [HvLists.moveToBad, List.mem_erase_of_ne hx] using h
  moveToOn h := by
    unfold HvLists.moveToOn
    split
    · exact h
    · simpa [hx] using h
  moveToOff h := by simpa [HvLists.moveToOff, List.mem_erase_of_ne hx] using h

theorem apart_notBad (hx : ch ≠ x) : Apart x fun s => ch ∉ s.badCh where
  moveToOk h := by simpa [HvLists.moveToOk, List.mem_erase_of_ne hx] using h
  moveToBad h := by simpa [HvLists.moveToBad, hx] using h
  moveToOn h := by
    unfold HvLists.moveToOn
    split <;> exact h
  moveToOff h := h

theorem keeps_calls {c : HvCall} : Keeps bus (fun w => J w.state) (call c) :=
  keeps_call fun _ hw => hw

theorem keeps_okChannels {α : Type} {action : Int → HvM α} {data : List (Int × α) → HvData}
    (ha : ∀ ch, Keeps bus (fun w => J w.state) (action ch))
    (hJ : ∀ x ∈ requested channels, Apart x J) :
    Keeps bus (fun w => J w.state) (HV.okChannels channels action HV.moveToBad data) := by
  refine keeps_channelsDefinition_bind (keeps_bind (keeps_read _) fun okCh => ?_)
  refine keeps_bind (keeps_mapEach fun ch hch => ?_) fun _ => keeps_pure _
  exact keeps_attempt (ha ch) (hJ ch (List.mem_of_mem_filter hch)).elsewhere.keeps_moveToBad

theorem keeps_applyConfig {config : HV.ChannelConfig} :
    Keeps bus (fun w => J w.state) (HV.applyConfig config x) :=
  keeps_bind (keeps_bind keeps_calls fun _ => keeps_bind keeps_calls fun _ => keeps_pure _) fun _ =>
    keeps_bind (keeps_writeIf keeps_calls) fun _ => keeps_bind (keeps_writeIf keeps_calls) fun _ =>
      keeps_pure _

theorem rampChannels_nil (applied : List (Int × SetPoints × SetPoints)) :
    HV.rampChannels [] applied = [] := by
  simp [HV.rampChannels]

theorem keeps_configureChannel {config : Option HV.ChannelConfig} (h : Apart x J) :
    Keeps bus (fun w => J w.state) (HV.configureChannel config x) := by
  unfold HV.configureChannel
  split
  · exact keeps_pure none
  · split
    · exact keeps_pure none
    · exact keeps_attempt keeps_applyConfig h.elsewhere.keeps_moveToBad

/-- Without a wait for the ramps. -/
theorem keeps_setAcquisitionConfiguration {config : Dict Int HV.ChannelConfig}
    (hJ : ∀ x ∈ requested channels, Apart x J) :
    Keeps bus (fun w => J w.state) (HV.setAcquisitionConfiguration channels config false) := by
  refine keeps_withLists (keeps_channelsDefinition_bind (keeps_bind (keeps_read _) fun okCh => ?_))
  refine keeps_read_bind (C := (· = [])) (fun _ _ => rfl) fun onCh honCh => ?_
  subst honCh
  refine keeps_bind (keeps_mapEach fun ch hch =>
    keeps_configureChannel (hJ ch (List.mem_of_mem_filter hch))) fun outcomes => ?_
  dsimp only
  rw [rampChannels_nil]
  exact keeps_bind (keeps_pure []) fun _ => keeps_pure _

theorem keeps_switchAndWait {goal : PowerGoal} {switch giveUp : Int → HvM Unit}
    {poll : Int → HvM (Option Bool)} (h : PowerWait.Steps bus goal switch giveUp poll)
    (hJ : ∀ x ∈ requested channels, Apart x J) :
    Keeps bus (fun w => J w.state) (PowerWait.switchAndWait channels switch giveUp poll) := by
  refine keeps_withLists (keeps_channelsDefinition_bind (keeps_bind (keeps_read _) fun okCh => ?_))
  have hsub : ∀ x ∈ (requested channels).filter (· ∈ okCh), Apart x J := fun x hx =>
    hJ x (List.mem_of_mem_filter hx)
  refine keeps_mapEach_bind (fun ch hch => ?_) fun outcomes ho => ?_
  · exact keeps_attempt (h.switchElsewhere (hsub ch hch).elsewhere)
      (h.giveUpElsewhere (hsub ch hch).elsewhere)
  · have hpending : ∀ ch ∈ ((HV.successes outcomes).map (·.1)).filter (· ∉ HV.failures outcomes),
        Apart ch J := fun ch hch => by
      obtain ⟨e, he, rfl⟩ := List.mem_map.1 (List.mem_of_mem_filter hch)
      exact hsub e.1 (ho ▸ mem_of_mem_successes he)
    refine keeps_bind keeps_waitRounds fun rounds => ?_
    refine keeps_pollRounds_bind (C := fun ch => Apart ch J) (fun _ hch =>
      h.pollElsewhere hch.elsewhere) hpending fun r _ hleft => ?_
    exact keeps_bind (keeps_forEach fun ch hch => h.giveUpElsewhere (hleft ch hch).elsewhere)
      fun _ => keeps_pure _

theorem keeps_firstAddress : ∀ addrs : List Int,
    Keeps bus (fun w => J w.state) (HVModBus.firstAddress addrs : HvM (Option Int))
  | [] => keeps_pure none
  | addr :: rest => by
    refine keeps_bind (keeps_checkAddress fun _ hw => hw) fun answers => ?_
    split
    · exact keeps_pure _
    · exact keeps_firstAddress rest

theorem keeps_resetConnection :
    Keeps bus (fun w => J w.state) (HVModBus.resetConnection : HvM Bool) :=
  keeps_try (keeps_map keeps_calls) fun _ => keeps_pure false

theorem keeps_changeAddress {standardAddr : Option Int} (h : Apart x J) :
    Keeps bus (fun w => J w.state) (HV.changeFebAddress x standardAddr) := by
  have hmove : Keeps bus (fun w => J w.state) (HV.moveToOk x) :=
    keeps_modify fun _ hw => h.moveToOk hw
  refine keeps_try (keeps_bind keeps_resetConnection fun _ =>
    keeps_bind (keeps_firstAddress _) fun old => ?_) fun _ => keeps_pure _
  cases old with
  | none => exact keeps_pure _
  | some old =>
    dsimp only
    split
    · exact keeps_bind hmove fun _ => keeps_pure _
    · refine keeps_bind (keeps_bind (keeps_attempt keeps_calls (keeps_pure ())) fun _ =>
        keeps_bind keeps_resetConnection fun _ =>
          keeps_bind (keeps_checkAddress fun _ hw => hw) fun answers => ?_) fun _ => keeps_pure _
      split
      · exact keeps_bind hmove fun _ => keeps_pure _
      · exact keeps_pure false

/-- The channels that a command for some of the channels may move. -/
def HvRequest.targets : HvRequest → Option (List Int)
  | .setCommonVoltage channels _ | .setCommonThreshold channels _
  | .setAcquisitionConfiguration channels _ false | .hvOnAndWait channels
  | .hvOffAndWait channels => some (requested channels)
  | .febChangeAddress index _ => some [index + 1]
  | _ => none

theorem keeps_handle_targets {request : HvRequest} {chs : List Int}
    (h : request.targets = some chs) (hJ : ∀ x ∈ chs, Apart x J) :
    Keeps bus (fun w => J w.state) (HV.handle request) := by
  unfold HvRequest.targets at h
  split at h
  · cases h
    exact keeps_map (keeps_withLists (keeps_okChannels (fun _ => keeps_calls) hJ))
  · cases h
    exact keeps_map (keeps_withLists (keeps_okChannels (fun _ => keeps_calls) hJ))
  · cases h
    exact keeps_map (keeps_setAcquisitionConfiguration hJ)
  · cases h
    exact keeps_map (keeps_switchAndWait (PowerWait.steps_on bus) hJ)
  · cases h
    exact keeps_map (keeps_switchAndWait (PowerWait.steps_off bus) hJ)
  · cases h
    exact keeps_map (keeps_changeAddress (hJ _ List.mem_cons_self))
  · cases h

end Apart

/-! ## Commands that succeed -/

section Success

variable {bus : HvBus} {ch : Int} {channels : ChannelsArg}

/-- The channel is not bad. -/
abbrev NotBad (ch : Int) (w : World HvLists HvCall) : Prop := ch ∉ w.state.badCh

theorem keeps_moveToOn_notBad (x : Int) : Keeps bus (NotBad ch) (HV.moveToOn x) :=
  keeps_modify fun w hw => by
    show ch ∉ (w.state.moveToOn x).badCh
    unfold HvLists.moveToOn
    split <;> exact hw

theorem triple_attempt_notBad {α : Type} {p : HvM α} {recover : HvM Unit}
    (hp : Keeps bus (NotBad ch) p) :
    Triple bus (NotBad ch) (attempt p recover) (fun o w => o ≠ none → NotBad ch w)
      fun _ => True := by
  have hbody : Triple bus (NotBad ch) (some <$> p) (fun o w => o ≠ none → NotBad ch w)
      fun _ => True :=
    triple_map (hp.any.imp_result (fun _ _ hw _ => hw) fun _ hw => hw)
  refine triple_try hbody fun _ => ?_
  exact triple_bind triple_any fun _ => triple_pure fun _ _ hne => absurd rfl hne

theorem triple_withLists {p : HvM HvResult}
    (hp : Triple bus (NotBad ch) p (fun r w => r.failedChannels = [] → NotBad ch w) fun _ => True) :
    Triple bus (NotBad ch) (HV.withLists p) (fun r w => r.failedChannels = [] → NotBad ch w)
      fun _ => True :=
  triple_bind hp fun r => triple_bind (Q := fun _ w => r.failedChannels = [] → NotBad ch w)
    (triple_read fun _ hw => hw) fun _ => triple_pure fun _ hw => hw

theorem ne_none_of_failures {α : Type} {outcomes : List (Int × Option α)}
    (h : HV.failures outcomes = []) : ∀ e ∈ outcomes, e.2 ≠ none := by
  rintro ⟨x, o⟩ he rfl
  exact List.not_mem_nil (h ▸ mem_failures.2 he)

theorem triple_okChannels_notBad {α : Type} {action : Int → HvM α}
    {data : List (Int × α) → HvData} (ha : ∀ x, Keeps bus (NotBad ch) (action x)) :
    Triple bus (NotBad ch) (HV.okChannels channels action HV.moveToBad data)
      (fun r w => r.failedChannels = [] → NotBad ch w) fun _ => True := by
  refine triple_bind keeps_channelsDefinition.any fun chs =>
    triple_bind (keeps_read _).any fun okCh => ?_
  refine triple_bind (triple_mapEach_well (G := (· ≠ none)) fun x _ =>
    triple_attempt_notBad (ha x)) fun outcomes => triple_pure fun w hw hfailed => ?_
  exact hw (ne_none_of_failures hfailed)

theorem triple_configureChannel_notBad {config : Option HV.ChannelConfig} {x : Int} :
    Triple bus (NotBad ch) (HV.configureChannel config x) (fun o w => o ≠ none → NotBad ch w)
      fun _ => True := by
  unfold HV.configureChannel
  split
  · exact triple_pure fun _ hw _ => hw
  · split
    · exact triple_pure fun _ hw _ => hw
    · exact triple_attempt_notBad (keeps_applyConfig (J := fun s => ch ∉ s.badCh))

theorem triple_setAcquisitionConfiguration_notBad {config : Dict Int HV.ChannelConfig} :
    Triple bus (NotBad ch) (HV.setAcquisitionConfiguration channels config false)
      (fun r w => r.failedChannels = [] → NotBad ch w) fun _ => True := by
  refine triple_withLists (triple_bind keeps_channelsDefinition.any fun chs =>
    triple_bind (keeps_read _).any fun okCh =>
      triple_bind (Q := fun onCh w => onCh = [] ∧ NotBad ch w) (triple_read fun _ hw => ⟨rfl, hw⟩)
        fun onCh w hw => ?_)
  obtain ⟨rfl, hw⟩ := hw
  refine triple_bind (triple_mapEach_well (G := (· ≠ none)) fun x _ =>
    triple_configureChannel_notBad) (fun outcomes => ?_) w hw
  dsimp only
  rw [rampChannels_nil]
  refine triple_bind
    (Q := fun failed w => failed = [] ∧ ((∀ e ∈ outcomes, e.2 ≠ none) → NotBad ch w))
    (triple_pure fun _ hw => ⟨rfl, hw⟩) fun failed => triple_pure fun w hw hfailed => ?_
  exact hw.2 (ne_none_of_failures (List.append_eq_nil_iff.1 hfailed).1)

theorem triple_pollUp_notBad (x : Int) : Triple bus (NotBad ch) (HV.pollUp x)
    (fun o w => (∀ b, o = some b → b = true) → NotBad ch w) fun _ => True := by
  have hfailed : Triple bus (fun _ => True) (HV.powerOnFailed x >>= fun _ => pure (some false))
      (fun o w => (∀ b, o = some b → b = true) → NotBad ch w) fun _ => True :=
    triple_bind triple_any fun _ => triple_pure fun _ _ hall => absurd (hall false rfl) nofun
  have hread : Keeps bus (NotBad ch) (HV.readStatusAlarm x) :=
    keeps_bind (keeps_map (keeps_call fun _ hw => hw)) fun _ =>
      keeps_bind (keeps_map (keeps_call fun _ hw => hw)) fun _ => keeps_pure _
  refine triple_try (triple_bind hread.any fun r => ?_) fun _ => hfailed
  obtain ⟨status, alarm⟩ := r
  dsimp only
  split
  · exact triple_bind (keeps_moveToOn_notBad x).any fun _ => triple_pure fun _ hw _ => hw
  · split
    · exact triple_pure fun _ hw _ => hw
    · exact hfailed.conseq (fun _ _ => trivial) (fun _ _ h => h) fun _ h => h

theorem triple_onAndWait_notBad : Triple bus (NotBad ch) (HV.onAndWait channels)
    (fun r w => r.failedChannels = [] → NotBad ch w) fun _ => True := by
  refine triple_withLists (triple_bind keeps_channelsDefinition.any fun chs =>
    triple_bind (keeps_read _).any fun okCh => ?_)
  refine triple_bind (triple_mapEach_well (G := (· ≠ none)) fun x _ =>
    triple_attempt_notBad (keeps_call fun _ hw => hw)) fun outcomes => ?_
  by_cases hall : ∀ e ∈ outcomes, e.2 ≠ none
  · refine triple_bind (Q := fun _ => NotBad ch) (triple_waitRounds fun _ hw => hw hall)
      fun rounds => ?_
    refine triple_bind (triple_pollRounds_well (G := (· = true)) triple_pollUp_notBad) fun r => ?_
    obtain ⟨settled, left⟩ := r
    cases left with
    | nil =>
      refine triple_bind (Q := fun _ w => (∀ e ∈ settled, e.2 = true) → NotBad ch w)
        (triple_pure fun _ hw => hw) fun _ => triple_pure fun w hw hfailed => hw ?_
      rintro ⟨x, b⟩ he
      cases b with
      | true => rfl
      | false =>
        have hmem : x ∈ HV.settledWith false settled := mem_settledWith.2 he
        have hnil := List.append_eq_nil_iff.1
          (List.append_eq_nil_iff.1 (sortedSet_eq_nil.1 hfailed)).1
        exact absurd (hnil.2 ▸ hmem) List.not_mem_nil
    | cons x left =>
      refine triple_bind triple_any fun _ => triple_pure fun w _ hfailed => ?_
      exact absurd (List.append_eq_nil_iff.1 (sortedSet_eq_nil.1 hfailed)).2 (List.cons_ne_nil _ _)
  · refine triple_bind triple_any fun rounds => triple_bind triple_any fun r => ?_
    obtain ⟨settled, left⟩ := r
    refine triple_bind triple_any fun _ => triple_pure fun w _ hfailed => ?_
    have hnil := List.append_eq_nil_iff.1 (List.append_eq_nil_iff.1 (sortedSet_eq_nil.1 hfailed)).1
    exact absurd (ne_none_of_failures hnil.1) hall

/-- The commands that set channels and switch them on. -/
def HvRequest.restores : HvRequest → Bool
  | .setCommonVoltage .. | .setCommonThreshold .. | .setAcquisitionConfiguration _ _ false
  | .hvOnAndWait _ => true
  | _ => false

/-- If one of them succeeds it has moved no channel to the bad list. -/
theorem triple_handle_success {request : HvRequest} (h : request.restores = true) :
    Triple bus (NotBad ch) (HV.handle request) (fun r w => r.status = .ok → NotBad ch w)
      fun _ => True := by
  have hwrap {p : HvM HvResult} (hp : Triple bus (NotBad ch) p
      (fun r w => r.failedChannels = [] → NotBad ch w) fun _ => True) :
      Triple bus (NotBad ch) (HvResponse.wrapHvAction <$> p)
        (fun r w => r.status = .ok → NotBad ch w) fun _ => True :=
    triple_map (hp.imp_result (fun _ _ hw hok => hw (wrapHvAction_ok.1 hok))
      fun _ hw => hw)
  unfold HvRequest.restores at h
  split at h
  · exact hwrap (triple_withLists (triple_okChannels_notBad fun _ => keeps_call fun _ hw => hw))
  · exact hwrap (triple_withLists (triple_okChannels_notBad fun _ => keeps_call fun _ hw => hw))
  · exact hwrap triple_setAcquisitionConfiguration_notBad
  · exact hwrap triple_onAndWait_notBad
  · cases h

/-- A power-off of channels that are ok leaves none of them on. -/
theorem offAndWait_notOn {chs : List Int} (w : World HvLists HvCall) (hw : w.state.Tidy)
    (hvalid : ∀ ch ∈ chs, 1 ≤ ch ∧ ch ≤ 7) (hnodup : chs.Nodup)
    (hok : ∀ ch ∈ chs, ch ∈ w.state.okCh) :
    ∀ ch ∈ chs, ch ∉ (HV.offAndWait (.list chs) bus w).2.state.onCh := by
  intro ch hch
  have hchs : hvChannelsDefinition (.list chs) = .ok chs := definition_of_valid hvalid
  obtain ⟨result, w', hrun, hused, hpartition, hkept⟩ :=
    PowerGoal.request_run bus .off hchs hnodup w
  have htidy : w'.state.Tidy :=
    hkept (fun w => w.state.Tidy) (fun x _ => (apart_tidy x).elsewhere) hw
  have hmem : ch ∈ result.usedChannels := by
    rw [hused]
    exact List.mem_filter.2 ⟨hch, decide_eq_true (hok ch hch)⟩
  have hoff : HV.offAndWait (.list chs) bus w = (.ok result, w') := hrun
  rw [hoff]
  rcases List.mem_append.1 (hpartition.failed.subset hmem) with h | h
  · exact htidy.not_on_of_off (hpartition.arrived ch h).listed
  · exact htidy.not_on_of_bad (hpartition.givenUp ch h).bad

end Success

end MultiDAQ.Client
