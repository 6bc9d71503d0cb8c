import MultiDAQ.Client.Verify.Lists
import MultiDAQ.Client.HvCommands

/-!
# Rules for the HV commands

An invariant that a command keeps whatever the boards answer, if every call but a power-on keeps it
and so does every reclassification of a channel in a set `S` that holds the ok and the bad channels:
`Respected S I`. There is one rule for each operation. An operation that may reclassify other channels
than the ok and the bad ones has the condition that they are in `S`, and one that powers on has the
condition that a power-on keeps the invariant.
-/

namespace MultiDAQ.Client

open MultiDAQ.Lib MultiDAQ.Lib.Interaction

/-- The channels of an argument, none if it is not accepted. -/
def requested (channels : ChannelsArg) : List Int :=
  match hvChannelsDefinition channels with
  | .ok chs => chs
  | .error _ => []

/-- What a command has to respect to keep `I`. -/
structure Respected (S : Int → Prop) (I : World HvLists HvCall → Prop) : Prop where
  issue : ∀ {w c}, (∀ ch, c ≠ .powerOn ch) → I w → I (w.issue c)
  moveToOk : ∀ {w ch}, S ch → I w → I (w.update (·.moveToOk ch))
  moveToBad : ∀ {w ch}, S ch → I w → I (w.update (·.moveToBad ch))
  moveToOn : ∀ {w ch}, I w → I (w.update (·.moveToOn ch))
  moveToOff : ∀ {w ch}, I w → I (w.update (·.moveToOff ch))
  ok : ∀ {w}, I w → ∀ ch ∈ w.state.okCh, S ch
  bad : ∀ {w}, I w → ∀ ch ∈ w.state.badCh, S ch

/-- A power-on of a channel in `S` keeps `I`. -/
def PowersOn (S : Int → Prop) (I : World HvLists HvCall → Prop) : Prop :=
  ∀ w ch, S ch → I w → I (w.issue (.powerOn ch))

/-! ## Arguments and results -/

section Arguments

variable {I : World HvLists HvCall → Prop} {bus : HvBus} {α β : Type}

theorem keeps_channelsDefinition_bind {channels : ChannelsArg} {k : List Int → HvM α}
    (hk : Keeps bus I (k (requested channels))) :
    Keeps bus I (HV.channelsDefinition channels >>= k) := by
  unfold requested at hk
  unfold HV.channelsDefinition
  split
  next chs h =>
    rw [h] at hk
    exact hk
  next e _ =>
    show Keeps bus I (raise e)
    exact keeps_raise e

theorem keeps_channelsDefinition {channels : ChannelsArg} :
    Keeps bus I (HV.channelsDefinition channels) := by
  unfold HV.channelsDefinition
  split
  · exact keeps_pure _
  · exact keeps_raise _

theorem keeps_withLists {p : HvM HvResult} (hp : Keeps bus I p) :
    Keeps bus I (HV.withLists p) :=
  keeps_bind hp fun _ => keeps_bind (keeps_read id) fun _ => keeps_pure _

theorem keeps_writeIf {b : Bool} {p : HvM Unit} (hp : Keeps bus I p) :
    Keeps bus I (HV.writeIf b p) := by
  unfold HV.writeIf
  split
  · exact hp
  · exact keeps_pure ()

/-- The address checks only read. -/
theorem keeps_checkAddress {ch : Int} (hI : ∀ w, I w → I (w.issue (.readAddress ch))) :
    Keeps bus I (HVModBus.checkAddress ch : HvM Bool) :=
  keeps_try (keeps_map (keeps_call hI)) fun _ => keeps_pure false

theorem keeps_addressAnswers {ch : Int} (hI : ∀ w, I w → I (w.issue (.readAddress ch))) :
    Keeps bus I (HV.addressAnswers ch) := by
  unfold HV.addressAnswers
  split
  · exact keeps_checkAddress hI
  · exact keeps_pure false

theorem keeps_setPmtSerial {ch : Int} {serial : String}
    (hI : ∀ w, I w → I (w.issue (.setPMTSerialNumber serial ch))) :
    Keeps bus I (HV.setPmtSerial ch serial) := by
  unfold HV.setPmtSerial
  split
  · exact keeps_raise _
  · exact keeps_call hI

/-- The serials are only read. -/
theorem keeps_serialMap {channels : ChannelsArg} (hI : ∀ w ch, I w → I (w.issue (.getInfo ch))) :
    Keeps bus I (HV.serialMap channels) := by
  unfold HV.serialMap
  split
  · exact keeps_pure _
  · refine keeps_bind (keeps_bind (keeps_mapEach fun ch _ => ?_) fun _ => keeps_pure _)
      fun _ => keeps_pure _
    refine keeps_bind (keeps_attempt (keeps_call fun w => hI w ch) (keeps_pure ())) fun serial => ?_
    cases serial <;> exact keeps_pure _

theorem mem_of_mem_successes {outcomes : List (Int × Option α)} {e : Int × α}
    (h : e ∈ HV.successes outcomes) : e.1 ∈ outcomes.map Prod.fst := by
  obtain ⟨o, ho, hsome⟩ := List.mem_filterMap.1 h
  obtain ⟨a, -, rfl⟩ := Option.map_eq_some_iff.1 hsome
  exact List.mem_map_of_mem ho

theorem mem_requested {channels : ChannelsArg} {ch : Int} (h : ch ∈ requested channels) :
    1 ≤ ch ∧ ch ≤ 7 ∧ ch ∈ channels.chList 7 := by
  unfold requested hvChannelsDefinition at h
  cases hf : (channels.chList 7).find? fun ch => ch < 1 || ((7 : Nat) : Int) < ch with
  | some c =>
    rw [hf] at h
    cases h
  | none =>
    rw [hf] at h
    have := List.find?_eq_none.1 hf ch h
    simp only [Bool.or_eq_true, decide_eq_true_eq, not_or] at this
    exact ⟨by omega, by omega, h⟩

theorem definition_of_valid {channels : ChannelsArg}
    (h : ∀ ch ∈ channels.chList 7, 1 ≤ ch ∧ ch ≤ 7) :
    hvChannelsDefinition channels = .ok (channels.chList 7) := by
  unfold hvChannelsDefinition
  rw [List.find?_eq_none.2 fun ch hch => by
    have := h ch hch
    simp only [Bool.or_eq_true, decide_eq_true_eq]
    omega]

theorem definition_of_invalid {channels : ChannelsArg}
    (h : ∃ ch ∈ channels.chList 7, ch < 1 ∨ 7 < ch) :
    ∃ e, hvChannelsDefinition channels = .error e := by
  unfold hvChannelsDefinition
  cases hf : (channels.chList 7).find? fun ch => ch < 1 || ((7 : Nat) : Int) < ch with
  | some ch => exact ⟨_, rfl⟩
  | none =>
    obtain ⟨ch, hch, hout⟩ := h
    have := List.find?_eq_none.1 hf ch hch
    simp only [Bool.or_eq_true, decide_eq_true_eq] at this
    omega

end Arguments

/-! ## Lists of outcomes -/

section Outcomes

variable {α : Type}

theorem perm_successes_failures : ∀ outcomes : List (Int × Option α),
    (outcomes.map Prod.fst).Perm ((HV.successes outcomes).map (·.1) ++ HV.failures outcomes)
  | [] => .refl _
  | (ch, some _) :: outcomes => (perm_successes_failures outcomes).cons ch
  | (ch, none) :: outcomes =>
    ((perm_successes_failures outcomes).cons ch).trans List.perm_middle.symm

theorem mem_successes {outcomes : List (Int × Option α)} {ch : Int} {a : α} :
    (ch, a) ∈ HV.successes outcomes ↔ (ch, some a) ∈ outcomes := by
  unfold HV.successes
  simp only [List.mem_filterMap, Option.map_eq_some_iff, Prod.mk.injEq]
  constructor
  · rintro ⟨⟨_, o⟩, ho, b, rfl, rfl, rfl⟩
    exact ho
  · exact fun h => ⟨_, h, a, rfl, rfl, rfl⟩

theorem mem_failures {outcomes : List (Int × Option α)} {ch : Int} :
    ch ∈ HV.failures outcomes ↔ (ch, none) ∈ outcomes := by
  simp [HV.failures]

theorem perm_settledWith : ∀ settled : List (Int × Bool),
    (settled.map Prod.fst).Perm (HV.settledWith true settled ++ HV.settledWith false settled)
  | [] => .refl _
  | (ch, true) :: settled => (perm_settledWith settled).cons ch
  | (ch, false) :: settled => ((perm_settledWith settled).cons ch).trans List.perm_middle.symm

theorem mem_settledWith {b : Bool} {settled : List (Int × Bool)} {ch : Int} :
    ch ∈ HV.settledWith b settled ↔ (ch, b) ∈ settled := by
  simp [HV.settledWith]

theorem perm_filter_notMem (l ok : List Int) :
    l.Perm (l.filter (· ∈ ok) ++ l.filter (· ∉ ok)) := by
  have h := (List.filter_append_perm (fun x => decide (x ∈ ok)) l).symm
  simpa only [decide_not] using h

theorem sortedSet_perm {l : List Int} (h : l.Nodup) : (HV.sortedSet l).Perm l := by
  unfold HV.sortedSet
  rw [h.dedup]
  exact List.perm_insertionSort _ l

end Outcomes

/-! ## Dictionaries filled in order -/

section Dictionaries

variable {α : Type}

theorem mem_of_get?_dictOf {entries : List (Int × α)} {ch : Int} {a : α}
    (h : (HV.dictOf entries).get? ch = some a) : (ch, a) ∈ entries := by
  rw [HV.dictOf, Dict.get?_foldl_set, Dict.get?_empty, Option.or_none,
    List.lookup_eq_some_iff] at h
  obtain ⟨l₁, l₂, hl, -⟩ := h
  rw [← List.mem_reverse, hl]
  exact List.mem_append_right _ List.mem_cons_self

theorem get?_dictOf {entries : List (Int × α)} {ch : Int} {a : α} (h : (entries.map Prod.fst).Nodup) :
    (HV.dictOf entries).get? ch = some a ↔ (ch, a) ∈ entries := by
  have hreverse : (entries.reverse.map Prod.fst).Nodup := by
    rw [List.map_reverse, List.nodup_reverse]
    exact h
  rw [HV.dictOf, Dict.get?_foldl_set, Dict.get?_empty, Option.or_none,
    Dict.lookup_eq_some_iff hreverse, List.mem_reverse]

end Dictionaries

namespace Respected

variable {S : Int → Prop} {I : World HvLists HvCall → Prop} {bus : HvBus} {ch : Int}
variable {α β : Type} (h : Respected S I)

include h

/-! ## Calls and moves -/

theorem call {c : HvCall} (hc : ∀ ch, c ≠ .powerOn ch) : Keeps bus I (call c) :=
  keeps_call fun _ hw => h.issue hc hw

theorem keeps_moveToBad (hch : S ch) : Keeps bus I (HV.moveToBad ch) :=
  keeps_modify fun _ hw => h.moveToBad hch hw

theorem keeps_moveToOk (hch : S ch) : Keeps bus I (HV.moveToOk ch) :=
  keeps_modify fun _ hw => h.moveToOk hch hw

theorem keeps_moveToOn : Keeps bus I (HV.moveToOn ch) :=
  keeps_modify fun _ hw => h.moveToOn hw

theorem keeps_moveToOff : Keeps bus I (HV.moveToOff ch) :=
  keeps_modify fun _ hw => h.moveToOff hw

theorem getOkChannels_bind {k : List Int → HvM α}
    (hk : ∀ okCh, (∀ ch ∈ okCh, S ch) → Keeps bus I (k okCh)) :
    Keeps bus I (HV.getOkChannels >>= k) :=
  keeps_read_bind (fun _ hw => h.ok hw) hk

/-! ## Reading -/

theorem getStatus : Keeps bus I (HVModBus.getStatus ch) :=
  keeps_map (h.call fun _ => nofun)

theorem getAlarm : Keeps bus I (HVModBus.getAlarm ch) :=
  keeps_map (h.call fun _ => nofun)

theorem checkAddress : Keeps bus I (HVModBus.checkAddress ch : HvM Bool) :=
  keeps_checkAddress fun _ => h.issue fun _ => nofun

theorem addressAnswers : Keeps bus I (HV.addressAnswers ch) :=
  keeps_addressAnswers fun _ => h.issue fun _ => nofun

theorem resetConnection : Keeps bus I (HVModBus.resetConnection : HvM Bool) :=
  keeps_try (keeps_map (h.call fun _ => nofun)) fun _ => keeps_pure false

theorem readStatusAlarm : Keeps bus I (HV.readStatusAlarm ch) :=
  keeps_bind h.getStatus fun _ => keeps_bind h.getAlarm fun _ => keeps_pure _

theorem readSetPoints : Keeps bus I (HV.readSetPoints ch) :=
  keeps_bind (h.call fun _ => nofun) fun _ =>
    keeps_bind (h.call fun _ => nofun) fun _ => keeps_pure _

theorem readElectrical : Keeps bus I (HV.readElectrical ch) :=
  keeps_bind (h.call fun _ => nofun) fun _ => keeps_bind (h.call fun _ => nofun) fun _ =>
    keeps_bind (h.call fun _ => nofun) fun _ => keeps_pure _

theorem readChannels {channels : List Int} {action : Int → HvM α} (hS : ∀ ch ∈ channels, S ch)
    (ha : ∀ ch, Keeps bus I (action ch)) : Keeps bus I (HV.readChannels channels action) :=
  keeps_bind (keeps_read id) fun _ => keeps_bind (keeps_mapEach fun ch hch =>
    keeps_attempt (ha ch) (h.keeps_moveToBad (hS ch hch))) fun _ => keeps_pure _

section AllRequested

variable {channels : ChannelsArg} (hS : ∀ ch ∈ requested channels, S ch)

include hS

theorem getChElectrical : Keeps bus I (HV.getChElectrical channels) :=
  keeps_channelsDefinition_bind (keeps_bind (h.readChannels hS fun _ => h.readElectrical)
    fun _ => keeps_pure _)

theorem getChStatusAndAlarm : Keeps bus I (HV.getChStatusAndAlarm channels) :=
  keeps_channelsDefinition_bind (keeps_bind (h.readChannels hS fun _ => h.readStatusAlarm)
    fun _ => keeps_pure _)

theorem monitorSnapshot : Keeps bus I (HV.monitorSnapshot channels) := by
  refine keeps_withLists (keeps_channelsDefinition_bind (keeps_bind (keeps_read id) fun lists => ?_))
  have hmonitored : ∀ ch ∈ (requested channels).filter (· ∉ lists.fixedBad), S ch :=
    fun ch hch => hS ch (List.mem_filter.1 hch).1
  exact keeps_bind (h.readChannels hmonitored fun _ => h.readElectrical) fun _ =>
    keeps_bind (h.readChannels hmonitored fun _ => h.readStatusAlarm) fun _ => keeps_pure _

end AllRequested

/-! ## The operations on the OK channels -/

section OkChannels

variable {channels : ChannelsArg} {action : Int → HvM α} {data : List (Int × α) → HvData}

theorem okChannels {recover : Int → HvM Unit} (ha : ∀ ch, S ch → Keeps bus I (action ch))
    (hr : ∀ ch, S ch → Keeps bus I (recover ch)) :
    Keeps bus I (HV.okChannels channels action recover data) := by
  refine keeps_channelsDefinition_bind (h.getOkChannels_bind fun okCh hok => ?_)
  refine keeps_bind (keeps_mapEach fun ch hch => ?_) fun _ => keeps_pure _
  have hin : S ch := hok ch (by simpa using (List.mem_filter.1 hch).2)
  exact keeps_attempt (ha ch hin) (hr ch hin)

/-- An operation that puts a channel whose access raises into the bad list. -/
theorem orBad (ha : ∀ ch, Keeps bus I (action ch)) :
    Keeps bus I (HV.withLists (HV.okChannels channels action HV.moveToBad data)) :=
  keeps_withLists (h.okChannels (fun ch _ => ha ch) fun _ => h.keeps_moveToBad)

theorem getChStatus : Keeps bus I (HV.getChStatus channels) :=
  h.okChannels (fun _ _ => h.getStatus) fun _ => h.keeps_moveToBad

theorem getChAlarm : Keeps bus I (HV.getChAlarm channels) :=
  h.okChannels (fun _ _ => h.getAlarm) fun _ => h.keeps_moveToBad

end OkChannels

/-! ## On and off -/

theorem shutdown : Keeps bus I (HV.shutdown ch) :=
  keeps_try (keeps_bind (h.call fun _ => nofun) fun _ => h.call fun _ => nofun)
    fun _ => keeps_pure ()

theorem powerOnFailed (hch : S ch) : Keeps bus I (HV.powerOnFailed ch) :=
  keeps_bind h.shutdown fun _ => h.keeps_moveToBad hch

theorem powerOffChannel : Keeps bus I (HV.powerOffChannel ch) :=
  keeps_bind (h.call fun _ => nofun) fun _ => h.keeps_moveToOff

theorem on (hpow : PowersOn S I) {channels : ChannelsArg} : Keeps bus I (HV.on channels) :=
  keeps_withLists (h.okChannels (fun ch hch => keeps_bind (keeps_call fun w hw => hpow w ch hch hw)
    fun _ => h.keeps_moveToOn) fun _ => h.powerOnFailed)

theorem off {channels : ChannelsArg} : Keeps bus I (HV.off channels) :=
  keeps_withLists (h.okChannels (fun _ _ => h.powerOffChannel) fun _ => h.keeps_moveToBad)

theorem allChannels {channels : ChannelsArg} {action : Int → HvM Unit}
    (hS : ∀ ch ∈ requested channels, S ch) (ha : ∀ ch, S ch → Keeps bus I (action ch)) :
    Keeps bus I (HV.allChannels channels action) := by
  refine keeps_withLists (keeps_channelsDefinition_bind ?_)
  refine keeps_bind (keeps_mapEach fun ch hch => ?_) fun _ => keeps_pure _
  exact keeps_attempt (ha ch (hS ch hch)) (h.keeps_moveToBad (hS ch hch))

theorem forceOff {channels : ChannelsArg} (hS : ∀ ch ∈ requested channels, S ch) :
    Keeps bus I (HV.forceOff channels) :=
  h.allChannels hS fun _ _ => h.powerOffChannel

theorem forceReset {channels : ChannelsArg} (hS : ∀ ch ∈ requested channels, S ch) :
    Keeps bus I (HV.forceReset channels) :=
  h.allChannels hS fun _ _ => h.call fun _ => nofun

theorem pollUp (hch : S ch) : Keeps bus I (HV.pollUp ch) := by
  refine keeps_try (keeps_bind h.readStatusAlarm fun r => ?_) fun _ =>
    keeps_bind (h.powerOnFailed hch) fun _ => keeps_pure _
  obtain ⟨status, alarm⟩ := r
  dsimp only
  split
  · exact keeps_bind h.keeps_moveToOn fun _ => keeps_pure _
  · split
    · exact keeps_pure _
    · exact keeps_bind (h.powerOnFailed hch) fun _ => keeps_pure _

theorem pollDown (hch : S ch) : Keeps bus I (HV.pollDown ch) := by
  refine keeps_try (keeps_bind h.getStatus fun status => ?_) fun _ =>
    keeps_bind (h.keeps_moveToBad hch) fun _ => keeps_pure _
  split
  · exact keeps_bind h.keeps_moveToOff fun _ => keeps_pure _
  · exact keeps_bind h.shutdown fun _ =>
      keeps_bind (h.keeps_moveToBad hch) fun _ => keeps_pure _
  · exact keeps_pure none

omit h in
/-- The channels of a wait are requested OK channels. -/
theorem of_powered {okCh requested : List Int} {outcomes : List (Int × Option α)}
    (hok : ∀ ch ∈ okCh, S ch) (ho : outcomes.map Prod.fst = requested.filter (· ∈ okCh))
    (hch : ch ∈ ((HV.successes outcomes).map (·.1)).filter (· ∉ HV.failures outcomes)) : S ch := by
  obtain ⟨e, he, rfl⟩ := List.mem_map.1 (List.mem_filter.1 hch).1
  have hmem := mem_of_mem_successes he
  rw [ho] at hmem
  exact hok e.1 (by simpa using (List.mem_filter.1 hmem).2)

theorem onAndWait (hpow : PowersOn S I) {channels : ChannelsArg} :
    Keeps bus I (HV.onAndWait channels) := by
  refine keeps_withLists (keeps_channelsDefinition_bind (h.getOkChannels_bind fun okCh hok => ?_))
  refine keeps_mapEach_bind (fun ch hch => ?_) fun outcomes ho => ?_
  · have hin : S ch := hok ch (by simpa using (List.mem_filter.1 hch).2)
    exact keeps_attempt (keeps_call fun w hw => hpow w ch hin hw) (h.powerOnFailed hin)
  · refine keeps_bind keeps_waitRounds fun rounds => ?_
    refine keeps_pollRounds_bind (C := S) (fun _ => h.pollUp)
      (fun ch hch => of_powered hok ho hch) fun r _ hleft => ?_
    exact keeps_bind (keeps_forEach fun ch hch => h.powerOnFailed (hleft ch hch))
      fun _ => keeps_pure _

theorem offAndWait {channels : ChannelsArg} : Keeps bus I (HV.offAndWait channels) := by
  refine keeps_withLists (keeps_channelsDefinition_bind (h.getOkChannels_bind fun okCh hok => ?_))
  refine keeps_mapEach_bind (fun ch hch => ?_) fun outcomes ho => ?_
  · have hin : S ch := hok ch (by simpa using (List.mem_filter.1 hch).2)
    exact keeps_attempt (h.call fun _ => nofun) (h.keeps_moveToBad hin)
  · refine keeps_bind keeps_waitRounds fun rounds => ?_
    refine keeps_pollRounds_bind (C := S) (fun _ => h.pollDown)
      (fun ch hch => of_powered hok ho hch) fun r _ hleft => ?_
    exact keeps_bind (keeps_forEach fun ch hch => h.keeps_moveToBad (hleft ch hch))
      fun _ => keeps_pure _

/-! ## Settings -/

theorem applyConfig {config : HV.ChannelConfig} : Keeps bus I (HV.applyConfig config ch) :=
  keeps_bind h.readSetPoints fun _ => keeps_bind (keeps_writeIf (h.call fun _ => nofun)) fun _ =>
    keeps_bind (keeps_writeIf (h.call fun _ => nofun)) fun _ => keeps_pure _

theorem configureChannel {config : Option HV.ChannelConfig} (hch : S ch) :
    Keeps bus I (HV.configureChannel config ch) := by
  unfold HV.configureChannel
  split
  · exact keeps_pure none
  · split
    · exact keeps_pure none
    · exact keeps_attempt h.applyConfig (h.keeps_moveToBad hch)

theorem pollRamp : Keeps bus I (HV.pollRamp ch) := by
  refine keeps_bind (keeps_attempt h.readStatusAlarm (keeps_pure ())) fun outcome => ?_
  cases outcome <;> exact keeps_pure _

theorem waitRampEnd {channels : List Int} (hS : ∀ ch ∈ channels, S ch) :
    Keeps bus I (HV.waitRampEnd channels) := by
  refine keeps_bind keeps_waitRounds fun rounds => ?_
  refine keeps_pollRounds_bind (C := S) (fun _ _ => h.pollRamp) hS fun r hsettled hleft =>
    keeps_bind (keeps_forEach fun ch hch => ?_) fun _ => keeps_pure _
  have hin : S ch := by
    rw [mem_sorted, List.mem_dedup, List.mem_append, List.mem_map] at hch
    rcases hch with ⟨e, he, rfl⟩ | hch
    · exact hsettled e (List.mem_filter.1 he).1
    · exact hleft ch hch
  exact keeps_bind h.shutdown fun _ => h.keeps_moveToBad hin

theorem rampFailures {channels : List Int} (hS : ∀ ch ∈ channels, S ch) :
    Keeps bus I (HV.rampFailures channels) := by
  unfold HV.rampFailures
  split
  · exact keeps_pure []
  · exact h.waitRampEnd hS

theorem setAcquisitionConfiguration {channels : ChannelsArg} {config : Dict Int HV.ChannelConfig}
    {waitRamp : Bool} :
    Keeps bus I (HV.setAcquisitionConfiguration channels config waitRamp) := by
  refine keeps_withLists (keeps_channelsDefinition_bind (h.getOkChannels_bind fun okCh hok => ?_))
  have hin : ∀ ch ∈ (requested channels).filter (· ∈ okCh), S ch := fun ch hch =>
    hok ch (by simpa using (List.mem_filter.1 hch).2)
  refine keeps_bind (keeps_read _) fun onCh => ?_
  refine keeps_mapEach_bind (fun ch hch => h.configureChannel (hin ch hch)) fun outcomes ho => ?_
  refine keeps_bind (h.rampFailures fun ch hch => hin ch ?_) fun _ => keeps_pure _
  obtain ⟨e, he, rfl⟩ := List.mem_map.1 hch
  rw [← ho]
  exact mem_of_mem_successes (List.mem_filter.1 he).1

/-! ## Power states -/

theorem awaitPowerState (hch : S ch) : ∀ polls, Keeps bus I (HV.awaitPowerState ch polls) := by
  intro polls
  induction polls with
  | zero =>
    unfold HV.awaitPowerState
    refine keeps_bind h.getStatus fun status => ?_
    split
    · exact keeps_bind h.keeps_moveToOn fun _ => keeps_pure _
    · exact keeps_bind h.keeps_moveToOff fun _ => keeps_pure _
    · exact keeps_bind (h.keeps_moveToBad hch) fun _ => keeps_pure _
    all_goals exact keeps_pure none
  | succ polls ih =>
    unfold HV.awaitPowerState
    refine keeps_bind h.getStatus fun status => ?_
    split
    · exact keeps_bind h.keeps_moveToOn fun _ => keeps_pure _
    · exact keeps_bind h.keeps_moveToOff fun _ => keeps_pure _
    · exact keeps_bind (h.keeps_moveToBad hch) fun _ => keeps_pure _
    · exact keeps_pure none
    all_goals exact ih

theorem getPowerState {channels : ChannelsArg} (hS : ∀ ch ∈ requested channels, S ch) :
    Keeps bus I (HV.getPowerState channels) := by
  refine keeps_withLists (keeps_channelsDefinition_bind ?_)
  refine keeps_bind (keeps_mapEach fun ch hch => keeps_map ?_) fun _ => keeps_pure _
  exact keeps_attempt (keeps_bind keeps_waitRounds (h.awaitPowerState (hS ch hch)))
    (h.keeps_moveToBad (hS ch hch))

theorem alignPower : Keeps bus I (HV.alignPower ch) := by
  refine keeps_bind h.getStatus fun status => keeps_bind (keeps_read id) fun lists => ?_
  split
  · exact keeps_bind h.keeps_moveToOn fun _ => keeps_pure _
  · split
    · exact keeps_bind h.keeps_moveToOff fun _ => keeps_pure _
    · exact keeps_pure _

theorem checkChannelPower {channels : List Int} : Keeps bus I (HV.checkChannelPower channels) :=
  keeps_withLists (keeps_bind (keeps_mapEach fun _ _ => keeps_attempt h.alignPower (keeps_pure ()))
    fun _ => keeps_pure _)

/-! ## Recovery and checks -/

theorem recoverChannel (hch : S ch) : Keeps bus I (HV.recoverChannel ch) := by
  refine keeps_bind h.addressAnswers fun answers => ?_
  split
  · refine keeps_bind h.getStatus fun status => ?_
    split
    · exact keeps_bind (h.keeps_moveToOk hch) fun _ =>
        keeps_bind h.keeps_moveToOn fun _ => keeps_pure _
    · exact keeps_bind (h.keeps_moveToOk hch) fun _ =>
        keeps_bind h.keeps_moveToOff fun _ => keeps_pure _
  · exact keeps_pure none

theorem recoverBadChannels : Keeps bus I HV.recoverBadChannels := by
  refine keeps_withLists (keeps_read_bind (C := fun badCh => ∀ ch ∈ badCh, S ch)
    (fun _ hw => h.bad hw) fun badCh hbad => ?_)
  refine keeps_bind (keeps_mapEach fun ch hch => keeps_map ?_) fun _ => keeps_pure _
  exact keeps_attempt (h.recoverChannel (hbad ch hch)) (keeps_pure ())

theorem safeToRecover : Keeps bus I (HV.safeToRecover ch) := by
  refine keeps_bind h.addressAnswers fun answers => ?_
  split
  · refine keeps_bind h.getStatus fun status => ?_
    split
    · exact keeps_pure false
    · exact keeps_bind h.getAlarm fun _ => keeps_pure _
  · exact keeps_pure false

theorem restoreParameters {acqInfo : HV.AcqInfo} (hch : S ch) :
    Keeps bus I (HV.restoreParameters acqInfo ch) := by
  unfold HV.restoreParameters
  split
  · exact keeps_attempt (keeps_bind (h.call fun _ => nofun) fun _ => h.call fun _ => nofun)
      (h.keeps_moveToBad hch)
  · exact keeps_pure none

theorem powerSafe (hpow : PowersOn S I) {channels : List Int} :
    Keeps bus I (HV.powerSafe channels) := by
  unfold HV.powerSafe
  split
  · exact keeps_pure []
  · exact keeps_map (h.onAndWait hpow)

theorem recoverChannels (hpow : PowersOn S I) {acqInfo : HV.AcqInfo} {okOff : List Int}
    (hS : ∀ ch ∈ okOff, S ch) : Keeps bus I (HV.recoverChannels acqInfo okOff) := by
  refine keeps_mapEach_bind (fun ch _ => keeps_attempt h.safeToRecover (keeps_pure ()))
    fun checks hc => keeps_bind (keeps_mapEach fun ch hch => h.restoreParameters (hS ch ?_))
      fun _ => keeps_bind (h.powerSafe hpow) fun _ => keeps_pure _
  obtain ⟨e, he, rfl⟩ := List.mem_map.1 hch
  rw [← hc]
  exact List.mem_map_of_mem (List.mem_filter.1 he).1

theorem recoverOkOffAcquisition (hpow : PowersOn S I) {acqInfo : Option HV.AcqInfo} :
    Keeps bus I (HV.recoverOkOffAcquisition acqInfo) := by
  refine keeps_withLists (keeps_read_bind (C := fun okOff => ∀ ch ∈ okOff, S ch)
    (fun w hw ch hch => ?_) fun okOff hoff => ?_)
  · rw [HvLists.okOffChannels, mem_sorted, List.mem_dedup] at hch
    exact h.ok hw ch (List.mem_filter.1 hch).1
  · split
    · exact keeps_pure _
    · split
      · exact keeps_pure _
      · split
        · exact keeps_pure _
        · exact h.recoverChannels hpow hoff

theorem checkPresence (hch : S ch) : Keeps bus I (HV.checkPresence ch) := by
  unfold HV.checkPresence
  split
  · refine keeps_bind h.checkAddress fun answers => ?_
    split
    · exact keeps_pure none
    · exact keeps_bind (h.keeps_moveToBad hch) fun _ => keeps_pure _
  · exact keeps_bind (h.keeps_moveToBad hch) fun _ => keeps_pure _

theorem hvSync {channels : ChannelsArg} (hS : ∀ ch ∈ requested channels, S ch) :
    Keeps bus I (HV.hvSync channels) := by
  refine keeps_withLists (keeps_channelsDefinition_bind (keeps_bind (keeps_read _) fun fixedBad =>
    keeps_bind h.recoverBadChannels fun _ => ?_))
  have hactive : ∀ ch ∈ (requested channels).filter (· ∉ fixedBad), S ch :=
    fun ch hch => hS ch (List.mem_filter.1 hch).1
  refine keeps_bind (keeps_withLists (keeps_bind (keeps_mapEach fun ch hch =>
    h.checkPresence (hactive ch hch)) fun _ => keeps_pure _)) fun _ => ?_
  exact keeps_bind h.checkChannelPower fun _ => keeps_pure _

theorem handleUnsafe {c : CheckedChannel} (hc : S c.channel)
    (hS : ∀ ch ∈ requested (.one c.channel), S ch) : Keeps bus I (HV.handleUnsafe c) := by
  unfold HV.handleUnsafe
  split
  · exact h.keeps_moveToBad hc
  · exact keeps_finally (keeps_bind (h.forceReset hS) fun _ =>
      keeps_bind (h.forceOff hS) fun _ => keeps_pure _) (h.keeps_moveToBad hc)

theorem checkChannelSafety {channels : List Int} (hS : ∀ ch ∈ channels, S ch) :
    Keeps bus I (HV.checkChannelSafety channels) := by
  refine keeps_bind h.getChStatus fun status => keeps_bind h.getChAlarm fun alarm =>
    keeps_bind (keeps_forEach fun c hc => ?_) fun _ => keeps_pure _
  obtain ⟨ch, hch, rfl⟩ := List.mem_map.1 (List.mem_filter.1 hc).1
  refine h.handleUnsafe (hS ch hch) fun x hx => ?_
  obtain rfl := List.mem_singleton.1 (mem_requested hx).2.2
  exact hS x hch

/-! ## Marks, serials and addresses -/

omit h in
theorem moveAll {channels : ChannelsArg} {move : Int → HvM Unit}
    (hm : ∀ ch ∈ requested channels, Keeps bus I (move ch)) :
    Keeps bus I (HV.moveAll channels move) := by
  unfold requested at hm
  unfold HV.moveAll
  split
  · exact keeps_pure _
  next defined hdef =>
    rw [hdef] at hm
    exact keeps_bind (keeps_forEach hm) fun _ => keeps_map (keeps_withLists (keeps_pure _))

theorem setPmtSerials {serials : Dict Int String}
    (hm : ∀ ch ∈ serials.keys, Keeps bus I (HV.removeFromMissingSerial ch)) :
    Keeps bus I (HV.setPmtSerials serials) :=
  keeps_bind (keeps_mapEach fun ch hch => keeps_attempt (keeps_bind
    (keeps_setPmtSerial fun _ => h.issue fun _ => nofun) fun _ => hm ch hch) (keeps_pure ()))
    fun _ => keeps_pure _

theorem serialMap {channels : ChannelsArg} : Keeps bus I (HV.serialMap channels) :=
  keeps_serialMap fun _ _ => h.issue fun _ => nofun

theorem checkMissingSerial {channels : List Int}
    (hm : ∀ ch ∈ channels, Keeps bus I (HV.moveToMissingSerial ch)) :
    Keeps bus I (HV.checkMissingSerial channels) := by
  refine keeps_bind (keeps_mapEach fun ch hch => ?_) fun _ => keeps_pure _
  refine keeps_bind (keeps_attempt (h.call fun _ => nofun) (keeps_pure ())) fun serial => ?_
  split
  · exact keeps_pure false
  · exact keeps_bind (hm ch hch) fun _ => keeps_pure _

theorem firstAddress :
    ∀ addrs : List Int, Keeps bus I (HVModBus.firstAddress addrs : HvM (Option Int))
  | [] => keeps_pure none
  | addr :: rest => by
    refine keeps_bind h.checkAddress fun answers => ?_
    split
    · exact keeps_pure _
    · exact firstAddress rest

theorem moveAddress {new old : Int} (hnew : S new) : Keeps bus I (HV.moveAddress new old) := by
  refine keeps_bind (keeps_attempt (h.call fun _ => nofun) (keeps_pure ())) fun _ =>
    keeps_bind h.resetConnection fun _ => keeps_bind h.checkAddress fun answers => ?_
  split
  · exact keeps_bind (h.keeps_moveToOk hnew) fun _ => keeps_pure _
  · exact keeps_pure false

theorem changeFebAddress {new : Int} {standardAddr : Option Int} (hnew : S new) :
    Keeps bus I (HV.changeFebAddress new standardAddr) := by
  refine keeps_try (keeps_bind h.resetConnection fun _ =>
    keeps_bind (h.firstAddress _) fun old => ?_) fun _ => keeps_pure _
  cases old with
  | none => exact keeps_pure _
  | some old =>
    dsimp only
    split
    · exact keeps_bind (h.keeps_moveToOk hnew) fun _ => keeps_pure _
    · exact keeps_bind (h.moveAddress hnew) fun _ => keeps_pure _

/-! ## The start -/

theorem syncPowerState : ∀ (shared : Bool) (channels : List Int), (∀ ch ∈ channels, S ch) →
    Keeps bus I (HV.syncPowerState shared channels)
  | _, [], _ => keeps_pure ()
  | shared, ch :: rest, hS => by
    have hrest : ∀ x ∈ rest, S x := fun x hx => hS x (List.mem_cons_of_mem _ hx)
    unfold HV.syncPowerState
    refine keeps_bind (keeps_attempt (keeps_bind h.readStatusAlarm fun r => ?_)
      (h.keeps_moveToBad (hS ch List.mem_cons_self))) fun outcome => ?_
    · obtain ⟨status, alarm⟩ := r
      dsimp only
      split
      · exact h.keeps_moveToOn
      · exact h.keeps_moveToOff
    · cases outcome with
      | some _ => exact syncPowerState shared rest hrest
      | none =>
        match shared, rest, hrest with
        | true, _ :: rest, hrest =>
          exact syncPowerState false rest fun x hx => hrest x (List.mem_cons_of_mem _ hx)
        | true, [], hrest => exact syncPowerState false [] hrest
        | false, rest, hrest => exact syncPowerState false rest hrest

end Respected

/-! ## The commands -/

/-- The channels that a command may reclassify, beside the ok and the bad ones. -/
def HvRequest.actsOn : HvRequest → List Int
  | .getPowerStateChannels chs | .hvForceOff chs | .setHvSync chs | .hvSetUserBad chs
  | .hvUnsetUserBad chs | .hvElectricalMonitoring chs | .hvStatusAlarmMonitoring chs
  | .hvMonitorSnapshot chs => requested chs
  | .setPmtSerials serials => serials.keys
  | .febChangeAddress index _ => [index + 1]
  | .checkChannelSafety chs => chs
  | _ => []

/-- The marks of channels in `S` keep `I`. -/
structure RespectsMarks (S : Int → Prop) (I : World HvLists HvCall → Prop) : Prop where
  moveToFixedBad : ∀ {w ch}, S ch → I w → I (w.update (·.moveToFixedBad ch))
  removeFromFixedBad : ∀ {w ch}, S ch → I w → I (w.update (·.removeFromFixedBad ch))
  removeFromMissingSerial : ∀ {w ch}, S ch → I w → I (w.update (·.removeFromMissingSerial ch))

/-- A command that reclassifies only channels in `S` keeps `I`. -/
theorem Respected.handle {S : Int → Prop} {I : World HvLists HvCall → Prop} {bus : HvBus}
    (h : Respected S I) (hm : RespectsMarks S I) {request : HvRequest}
    (hS : ∀ ch ∈ request.actsOn, S ch) (hpow : request.needsFullControl = true → PowersOn S I) :
    Keeps bus I (HV.handle request) := by
  cases request with
  | setCommonVoltage => exact keeps_map (h.orBad fun _ => h.call fun _ => nofun)
  | setCommonThreshold => exact keeps_map (h.orBad fun _ => h.call fun _ => nofun)
  | setAcquisitionConfiguration => exact keeps_map h.setAcquisitionConfiguration
  | getVoltageChannels => exact keeps_map (h.orBad fun _ => h.call fun _ => nofun)
  | getThresholdChannels => exact keeps_map (h.orBad fun _ => h.call fun _ => nofun)
  | getVoltThrChannels => exact keeps_map (h.orBad fun _ => h.readSetPoints)
  | getPowerStateChannels => exact keeps_map (h.getPowerState hS)
  | hvSetUserBad =>
    exact Respected.moveAll fun ch hch => keeps_modify fun _ => hm.moveToFixedBad (hS ch hch)
  | hvUnsetUserBad =>
    exact Respected.moveAll fun ch hch => keeps_modify fun _ => hm.removeFromFixedBad (hS ch hch)
  | hvOn => exact keeps_map (h.on (hpow rfl))
  | hvOff => exact keeps_map h.off
  | hvForceOff => exact keeps_map (h.forceOff hS)
  | hvOnAndWait => exact keeps_map (h.onAndWait (hpow rfl))
  | hvOffAndWait => exact keeps_map h.offAndWait
  | setHvSync => exact keeps_map (h.hvSync hS)
  | setPmtSerials =>
    exact h.setPmtSerials fun ch hch => keeps_modify fun _ => hm.removeFromMissingSerial (hS ch hch)
  | getSerialMap => exact h.serialMap
  | febChangeAddress => exact keeps_map (h.changeFebAddress (hS _ List.mem_cons_self))
  | checkChannelSafety => exact h.checkChannelSafety hS
  | checkChannelPower => exact keeps_map h.checkChannelPower
  | checkRecoveryBad => exact keeps_map h.recoverBadChannels
  | checkChannelAcquisition => exact keeps_map (h.recoverOkOffAcquisition (hpow rfl))
  | hvElectricalMonitoring => exact keeps_bind (h.getChElectrical hS) fun _ => keeps_pure _
  | hvStatusAlarmMonitoring => exact keeps_bind (h.getChStatusAndAlarm hS) fun _ => keeps_pure _
  | hvChannelLists => exact keeps_map (keeps_withLists (keeps_pure _))
  | hvMonitorSnapshot => exact keeps_bind (h.monitorSnapshot hS) fun _ => keeps_pure _

/-! ## Boards that answer -/

/-- Boards that are down, without an alarm, and answer every call. -/
def answeringBus : HvBus where
  answer
    | .getStatus _, _ => .ok (1 : Nat)
    | .getAlarm _, _ | .getTemperature _, _ | .getVoltageSet _, _ | .getThreshold _, _ =>
      .ok (0 : Nat)
    | .getVoltage _, _ | .getCurrent _, _ => .ok (0 : Int)
    | .getInfo _, _ => .ok "PMT1"
    | .resetConnection, _ | .readAddress _, _ | .setVoltageSet _ _, _ | .setThreshold _ _, _
    | .setModbusAddress _ _, _ | .setPMTSerialNumber _ _, _ | .powerOn _, _ | .powerOff _, _
    | .reset _, _ => .ok ()
  rounds _ := 3

/-- The same boards, when the call `c` is not answered. -/
def silentOn (c : HvCall) : HvBus where
  answer c' n := if c' = c then .error "Modbus client is not connected" else answeringBus.answer c' n
  rounds _ := 3

end MultiDAQ.Client
