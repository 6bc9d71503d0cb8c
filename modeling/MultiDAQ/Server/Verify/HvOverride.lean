import MultiDAQ.Server.HvOverride
import MultiDAQ.Client.Verify.SetPoints

/-!
# The override and its restore

The override writes the set points of the requested OK channels, and the restore writes back the
values that a configured channel had before. A channel that fails on the way is bad from then on and
is left as it is; every other channel ends with the set points it had
(`override_restored`).
-/

namespace MultiDAQ.Server

open MultiDAQ.Lib MultiDAQ.Lib.Interaction MultiDAQ.Client MultiDAQ.Client.SetPoints

namespace HvOverride

variable {bus : HvBus} {stored : HvCall → Nat → Bool} {boards : Int → SetPoints} {ch : Int}

/-! ## The reply -/

theorem wrapHvAction_result (result : HvResult) :
    (HvResponse.wrapHvAction result).result = result := by
  unfold HvResponse.wrapHvAction
  split <;> rfl

/-- The policies allow the command. -/
theorem triple_executeResponse {P : World HvLists HvCall → Prop}
    {Q : HvResult → World HvLists HvCall → Prop} (policy : HvPolicy) {channels : ChannelsArg}
    {config : Dict Int HV.ChannelConfig} {waitRamp : Bool}
    (h : Triple bus P (HV.setAcquisitionConfiguration channels config waitRamp) Q
      fun _ => False) : Triple bus P
      (HvService.executeResponse policy (.setAcquisitionConfiguration channels config waitRamp))
      (fun response => Q response.result) fun _ => False := by
  have hallows : policy.allows (.setAcquisitionConfiguration channels config waitRamp) = true := by
    cases policy <;> rfl
  unfold HvService.executeResponse
  rw [if_pos hallows]
  refine triple_try (triple_map (h.imp_result (fun result w hw => ?_) fun _ hw => hw))
    fun _ _ hw => hw.elim
  rw [wrapHvAction_result]
  exact hw

theorem normalizeUserChannels_eq_some {channels defined : List Int}
    (h : normalizeUserChannels channels = some defined) :
    defined = channels ∧ channels ≠ [] ∧ ∀ ch ∈ channels, 0 ≤ ch ∧ ch < 7 := by
  unfold normalizeUserChannels at h
  split at h
  · cases h
  · next hvalid =>
    rw [not_or] at hvalid
    refine ⟨(Option.some.inj h).symm, hvalid.1, fun ch hch => ?_⟩
    by_contra hout
    exact hvalid.2 ⟨ch, hch, by omega⟩

theorem get?_toUser {values : Dict Int SetPoints} {u : Int} {v : SetPoints} :
    (toUser values).get? u = some v ↔ values.get? (u + 1) = some v := by
  have hkeys : ((values.entries.map fun e => (e.1 - 1, e.2)).map Prod.fst).Nodup := by
    have hmap := values.nodup.map (f := fun k : Int => k - 1) fun a b hab => by simpa using hab
    rwa [List.map_map] at hmap ⊢
  unfold toUser
  rw [get?_dictOf hkeys, ← Dict.mem_entries]
  simp only [List.mem_map, Prod.mk.injEq]
  constructor
  · rintro ⟨e, he, hk, rfl⟩
    rw [← hk, Int.sub_add_cancel]
    exact he
  · exact fun he => ⟨_, he, Int.add_sub_cancel .., rfl⟩

theorem get?_changedPrevious {configured : List Int} {previous applied : Dict Int SetPoints}
    {u : Int} {v : SetPoints} :
    (HvOutcome.changedPrevious configured previous applied).get? u = some v ↔
      previous.get? u = some v ∧ u ∈ configured ∧ applied.get? u ≠ some v := by
  have hkeys : ((previous.entries.filter fun e =>
      e.1 ∈ configured ∧ applied.get? e.1 ≠ some e.2).map Prod.fst).Nodup :=
    previous.nodup.sublist (List.filter_sublist.map _)
  unfold HvOutcome.changedPrevious
  rw [get?_dictOf hkeys, ← Dict.mem_entries]
  simp [List.mem_filter]

/-- What the outcome says of a channel follows from the result of the client. -/
theorem ofResult_spec {result : HvResult} {previous applied : Dict Int SetPoints}
    (hdata : result.data = .acquisition previous applied) :
    (∀ u, u ∈ (HvOutcome.ofResult result).configured ↔ u + 1 ∈ result.successfulChannels) ∧
      ∀ u v, (HvOutcome.ofResult result).previous.get? u = some v ↔
        previous.get? (u + 1) = some v ∧ u + 1 ∈ result.successfulChannels ∧
          applied.get? (u + 1) ≠ some v := by
  have hconfigured : ∀ u, u ∈ sorted (result.successfulChannels.map (· - 1)) ↔
      u + 1 ∈ result.successfulChannels := fun u => by
    rw [mem_sorted, List.mem_map]
    constructor
    · rintro ⟨x, hx, rfl⟩
      rwa [Int.sub_add_cancel]
    · exact fun h => ⟨_, h, Int.add_sub_cancel ..⟩
  unfold HvOutcome.ofResult
  rw [hdata]
  refine ⟨hconfigured, fun u v => ?_⟩
  dsimp only
  rw [get?_changedPrevious, get?_toUser, hconfigured, Ne, get?_toUser]

/-! ## The override of one channel -/

/-- The keys are channels, and the client has an HV service. -/
def Accepted (hvPolicy : Option HvPolicy) (keys : List Int) : Prop :=
  hvPolicy ≠ none ∧ normalizeUserChannels keys = some keys

/-- What the override leaves of a requested OK channel that held `r`. -/
def Overridden (bus : HvBus) (stored : HvCall → Nat → Bool) (boards : Int → SetPoints) (u : Int)
    (A : Prop) (r : SetPoints) (config? : Option HV.ChannelConfig) (o : HvOutcome)
    (w : World HvLists HvCall) : Prop :=
  (∃ values config, config? = some config ∧
      o.previous.get? u = (if config.over values = values then none else some values) ∧
      Holding bus stored boards (u + 1) (A ∧ values = r) (config.over r) w) ∨
    o.previous.get? u = none ∧ Configured bus stored boards (u + 1) A r config? none w

/-- A command that is accepted is carried out, and its reply is not rejected. -/
theorem triple_applyHvOverride {P : World HvLists HvCall → Prop}
    {Q : HvOutcome → World HvLists HvCall → Prop} {hvPolicy : Option HvPolicy}
    {acqInfo : Dict Int HV.ChannelConfig} {waitRamp : Bool}
    (haccepted : Accepted hvPolicy acqInfo.keys)
    (h : Triple bus P (HV.setAcquisitionConfiguration (.list (acqInfo.keys.map (· + 1))) acqInfo
      waitRamp) (fun result w => result.requestedChannels = acqInfo.keys.map (· + 1) ∧
        Q (HvOutcome.ofResult result) w) fun _ => False) :
    Triple bus P (applyHvOverride hvPolicy acqInfo waitRamp)
      (fun outcome w => ∃ o, outcome = some o ∧ Q o w) fun _ => False := by
  obtain ⟨hpolicy, hkeys⟩ := haccepted
  obtain ⟨policy, rfl⟩ := Option.ne_none_iff_exists'.1 hpolicy
  unfold applyHvOverride
  rw [hkeys]
  refine triple_bind (triple_executeResponse policy h) fun response w hw => ?_
  have hnonempty : ¬ (response.status ≠ .ok ∧ response.result.requestedChannels = []) := by
    rw [hw.1, List.map_eq_nil_iff]
    exact fun hempty => (normalizeUserChannels_eq_some hkeys).2.1 hempty.2
  rw [if_neg hnonempty]
  exact ⟨_, rfl, hw.2⟩

theorem Accepted.channels {hvPolicy : Option HvPolicy} {acqInfo : Dict Int HV.ChannelConfig}
    (h : Accepted hvPolicy acqInfo.keys) : (∀ x ∈ acqInfo.keys.map (· + 1), 1 ≤ x ∧ x ≤ 7) ∧
      (acqInfo.keys.map (· + 1)).Nodup := by
  refine ⟨fun x hx => ?_, acqInfo.nodup.map fun a b hab => by simpa using hab⟩
  obtain ⟨u, hu, rfl⟩ := List.mem_map.1 hx
  have := (normalizeUserChannels_eq_some h.2).2.2 u hu
  omega

theorem mem_map_succ {keys : List Int} {u : Int} : u + 1 ∈ keys.map (· + 1) ↔ u ∈ keys := by
  simp

section Override

variable {hvPolicy : Option HvPolicy} {acqInfo : Dict Int HV.ChannelConfig} (waitRamp : Bool)
variable {u : Int}

/-- A requested OK channel. -/
theorem overridden_apply (haccepted : Accepted hvPolicy acqInfo.keys) (hu : u ∈ acqInfo.keys)
    (A : Prop) (r : SetPoints) : Triple bus (Holding bus stored boards (u + 1) A r)
      (applyHvOverride hvPolicy acqInfo waitRamp) (fun outcome w => ∃ o, outcome = some o ∧
        Overridden bus stored boards u A r (acqInfo.get? u) o w) fun _ => False := by
  obtain ⟨hvalid, hnodup⟩ := haccepted.channels
  refine triple_applyHvOverride haccepted ((triple_setAcquisitionConfiguration hvalid hnodup
    (mem_map_succ.2 hu) r acqInfo waitRamp).imp_result (fun result w hw => ?_)
      fun _ hw => hw)
  obtain ⟨hrequested, previous, applied, hdata, hreported⟩ := hw
  rw [Int.add_sub_cancel] at hreported
  have hprevious := (ofResult_spec hdata).2 u
  refine ⟨hrequested, ?_⟩
  rcases hreported with ⟨values, config, hconfig, hmem, hprev, happ, hholding⟩ |
    ⟨hmem, -, hconfigured⟩
  · refine .inl ⟨values, config, hconfig, Option.ext fun v => (hprevious v).trans ?_, hholding⟩
    rw [hprev, happ]
    split
    · next heq => simp +contextual [heq]
    · next hne =>
      simp only [Option.some.injEq, ne_eq]
      exact ⟨fun h => h.1, fun h => ⟨h, hmem, h ▸ hne⟩⟩
  · exact .inr ⟨Option.eq_none_iff_forall_ne_some.2 fun v hv => hmem ((hprevious v).1 hv).2.1,
      hconfigured⟩

/-- A channel that is not requested, or is not OK. -/
theorem untouched_apply (haccepted : Accepted hvPolicy acqInfo.keys)
    {I : World HvLists HvCall → Prop} (hI : Steady (u + 1) I)
    (hu : ∀ w, I w → u ∈ acqInfo.keys → u + 1 ∉ w.state.okCh) :
    Triple bus I (applyHvOverride hvPolicy acqInfo waitRamp) (fun outcome w =>
      ∃ o, outcome = some o ∧ o.previous.get? u = none ∧ I w) fun _ => False := by
  refine triple_applyHvOverride haccepted ((skipped_setAcquisitionConfiguration
    haccepted.channels.1 hI (fun w hw hmem => hu w hw (mem_map_succ.1 hmem)) acqInfo
      waitRamp).imp_result (fun result w hw => ?_) fun _ hw => hw)
  obtain ⟨hrequested, ⟨previous, applied, hdata, hmem, -⟩, hIw⟩ := hw
  exact ⟨hrequested, Option.eq_none_iff_forall_ne_some.2 fun v hv =>
    hmem (((ofResult_spec hdata).2 u v).1 hv).2.1, hIw⟩

/-- A command that is not accepted is not carried out. -/
theorem applyHvOverride_rejected (h : ¬ Accepted hvPolicy acqInfo.keys)
    (w : World HvLists HvCall) : applyHvOverride hvPolicy acqInfo waitRamp bus w = (.ok none, w) := by
  unfold applyHvOverride
  cases hkeys : normalizeUserChannels acqInfo.keys with
  | none => rfl
  | some channels =>
    obtain rfl := (normalizeUserChannels_eq_some hkeys).1
    cases hvPolicy with
    | none => rfl
    | some policy => exact absurd ⟨nofun, hkeys⟩ h

end Override

/-! ## The restore -/

theorem pyRound_intCast (n : Int) : HV.pyRound n = n := by
  unfold HV.pyRound
  simp

theorem over_restoreConfig (values r : SetPoints) : (restoreConfig values).over r = values := by
  unfold restoreConfig HV.ChannelConfig.over
  simp [pyRound_intCast]

/-- The restore is accepted where the override was. -/
theorem Accepted.previous {hvPolicy : Option HvPolicy} {keys : List Int}
    {previous : Dict Int SetPoints} (h : Accepted hvPolicy keys) (hne : previous.entries ≠ [])
    (hsub : ∀ u ∈ previous.keys, u ∈ keys) :
    Accepted hvPolicy (previous.mapVals fun _ => restoreConfig).keys := by
  have hvalid : ¬ (previous.keys = [] ∨ ∃ ch ∈ previous.keys, ch < 0 ∨ 7 ≤ ch) := by
    rintro (hempty | ⟨ch, hch, hout⟩)
    · exact hne (List.map_eq_nil_iff.1 hempty)
    · have := (normalizeUserChannels_eq_some h.2).2.2 ch (hsub ch hch)
      omega
  rw [Dict.keys_mapVals]
  exact ⟨h.1, if_neg hvalid⟩

section Restore

variable {hvPolicy : Option HvPolicy} {previous : Dict Int SetPoints} {u : Int}

/-- A channel without values to put back. -/
theorem untouched_restore (haccepted : previous.entries ≠ [] →
    Accepted hvPolicy (previous.mapVals fun _ => restoreConfig).keys)
    {I : World HvLists HvCall → Prop} (hI : Steady (u + 1) I) (hu : previous.get? u = none) :
    Triple bus I (restoreHvOverride hvPolicy previous) (fun _ => I) fun _ => False := by
  unfold restoreHvOverride
  split
  · exact triple_pure fun _ hw => hw
  · next hne =>
    refine triple_bind (untouched_apply true (haccepted hne) hI fun w _ hmem => ?_) fun outcome =>
      triple_pure fun w ⟨_, _, _, hw⟩ => hw
    rw [Dict.keys_mapVals, Dict.mem_keys] at hmem
    obtain ⟨v, hv⟩ := hmem
    rw [hu] at hv
    cases hv

/-- A channel with values to put back gets them, or is bad. -/
theorem restored_restore (haccepted : previous.entries ≠ [] →
    Accepted hvPolicy (previous.mapVals fun _ => restoreConfig).keys) {values : SetPoints}
    (hu : previous.get? u = some values) (A : Prop) (r : SetPoints) :
    Triple bus (Holding bus stored boards (u + 1) A r) (restoreHvOverride hvPolicy previous)
      (fun _ w => u + 1 ∈ w.state.badCh ∨ Holding bus stored boards (u + 1) A values w)
      fun _ => False := by
  have hne : previous.entries ≠ [] := by
    have hmem := Dict.mem_entries.2 hu
    exact List.ne_nil_of_mem hmem
  have hkey : u ∈ (previous.mapVals fun _ => restoreConfig).keys := by
    rw [Dict.keys_mapVals]
    exact Dict.mem_keys.2 ⟨values, hu⟩
  unfold restoreHvOverride
  rw [if_neg hne]
  refine triple_bind (overridden_apply true (haccepted hne) hkey A r) fun outcome =>
    triple_pure fun w ⟨o, _, hoverridden⟩ => ?_
  rw [Dict.get?_mapVals, hu] at hoverridden
  rcases hoverridden with ⟨v, config, hconfig, -, hholding⟩ | ⟨-, hbad | ⟨hempty, -⟩⟩
  · obtain rfl := Option.some.inj hconfig
    rw [over_restoreConfig] at hholding
    exact .inr ⟨fun ht => (hholding.truth ht).1, hholding.setPoints, hholding.ok⟩
  · exact .inl hbad
  · cases (hempty _ rfl).1

end Restore

/-! ## The override of a run -/

theorem previous_keys {hvPolicy : Option HvPolicy} {acqInfo : Dict Int HV.ChannelConfig}
    {waitRamp : Bool} (haccepted : Accepted hvPolicy acqInfo.keys) {w w' : World HvLists HvCall}
    {o : HvOutcome} (hrun : applyHvOverride hvPolicy acqInfo waitRamp bus w = (.ok (some o), w')) :
    ∀ u ∈ o.previous.keys, u ∈ acqInfo.keys := by
  intro u hu
  by_contra hnot
  have hsteady : Steady (u + 1) fun _ => True := ⟨fun _ _ => trivial, fun _ _ => trivial⟩
  obtain ⟨o', ho, hnone, -⟩ := (untouched_apply waitRamp haccepted hsteady
    fun _ _ hmem => absurd hmem hnot).of_run hrun trivial
  obtain ⟨v, hv⟩ := Dict.mem_keys.1 hu
  obtain rfl := Option.some.inj ho
  rw [hnone] at hv
  cases hv

theorem overrideAndRestore_run {hvPolicy : Option HvPolicy}
    {acqInfo : Dict Int HV.ChannelConfig} {waitRamp : Bool} {w w₁ w₂ : World HvLists HvCall}
    {o : HvOutcome} {r : List Int × List Int}
    (happly : applyHvOverride hvPolicy acqInfo waitRamp bus w = (.ok (some o), w₁))
    (hrestore : restoreHvOverride hvPolicy o.previous bus w₁ = (.ok r, w₂)) :
    overrideAndRestore hvPolicy acqInfo waitRamp bus w = (.ok (some o), w₂) :=
  (bind_of_ok happly).trans (bind_of_ok hrestore)

/-- A requested OK channel ends bad, or with the set points it had. -/
theorem restored_or_bad (bus : HvBus) (stored : HvCall → Nat → Bool) (boards : Int → SetPoints)
    {hvPolicy : Option HvPolicy} {acqInfo : Dict Int HV.ChannelConfig} (waitRamp : Bool)
    {w : World HvLists HvCall} {u : Int} (haccepted : Accepted hvPolicy acqInfo.keys)
    (hu : u ∈ acqInfo.keys) (hok : u + 1 ∈ w.state.okCh) : ∃ w',
      (overrideAndRestore hvPolicy acqInfo waitRamp bus w).2 = w' ∧ (u + 1 ∈ w'.state.badCh ∨
        (Truthful bus stored boards w'.calls → setPointsAfter bus stored boards w'.calls (u + 1) =
          setPointsAfter bus stored boards w.calls (u + 1))) := by
  obtain ⟨outcome, w₁, happly, o, rfl, hover⟩ := (overridden_apply waitRamp haccepted hu
    True (setPointsAfter bus stored boards w.calls (u + 1))).run ⟨fun _ => trivial, rfl, hok⟩
  have hrestorable : o.previous.entries ≠ [] →
      Accepted hvPolicy (o.previous.mapVals fun _ => restoreConfig).keys :=
    fun hne => haccepted.previous hne (previous_keys haccepted happly)
  rcases hover with ⟨values, config, -, hprevious, hholding⟩ | ⟨hprevious, hbad | ⟨-, hholding⟩⟩
  · by_cases hsame : config.over values = values
    · -- the override did not change the channel, and the restore leaves it alone
      rw [if_pos hsame] at hprevious
      obtain ⟨_, w₂, hrestore, hend⟩ := (untouched_restore hrestorable
        (steady_holding ..) hprevious).run hholding
      refine ⟨w₂, congrArg Prod.snd (overrideAndRestore_run happly hrestore), .inr fun ht => ?_⟩
      rw [hend.setPoints, ← (hend.truth ht).2, hsame]
    · rw [if_neg hsame] at hprevious
      obtain ⟨_, w₂, hrestore, hend⟩ := (restored_restore hrestorable hprevious _ _).run hholding
      refine ⟨w₂, congrArg Prod.snd (overrideAndRestore_run happly hrestore), hend.imp_right
        fun hend ht => ?_⟩
      rw [hend.setPoints, (hend.truth ht).2]
  · obtain ⟨_, w₂, hrestore, hend⟩ := (untouched_restore hrestorable (steady_bad _) hprevious).run
      hbad
    exact ⟨w₂, congrArg Prod.snd (overrideAndRestore_run happly hrestore), .inl hend⟩
  · obtain ⟨_, w₂, hrestore, hend⟩ := (untouched_restore hrestorable
      (steady_holding ..) hprevious).run hholding
    exact ⟨w₂, congrArg Prod.snd (overrideAndRestore_run happly hrestore), .inr fun _ =>
      hend.setPoints⟩

/-- A channel that was not requested, or was not OK, is left alone. -/
theorem left_alone (stored : HvCall → Nat → Bool) (boards : Int → SetPoints)
    {hvPolicy : Option HvPolicy} {acqInfo : Dict Int HV.ChannelConfig} (waitRamp : Bool)
    {w : World HvLists HvCall} {u : Int} (haccepted : Accepted hvPolicy acqInfo.keys)
    (hu : u ∈ acqInfo.keys → u + 1 ∉ w.state.okCh) :
    setPointsAfter bus stored boards
        (overrideAndRestore hvPolicy acqInfo waitRamp bus w).2.calls (u + 1) =
      setPointsAfter bus stored boards w.calls (u + 1) := by
  let I : World HvLists HvCall → Prop := fun w' =>
    setPointsAfter bus stored boards w'.calls (u + 1) =
      setPointsAfter bus stored boards w.calls (u + 1) ∧
        (u ∈ acqInfo.keys → u + 1 ∉ w'.state.okCh)
  have hsteady : Steady (u + 1) I :=
    ⟨fun hc h => ⟨(setPointsAfter_other hc).trans h.1, h.2⟩,
      fun hx h => ⟨h.1, fun hmem => (mem_ok_moveToBad hx).not.2 (h.2 hmem)⟩⟩
  obtain ⟨outcome, w₁, happly, o, rfl, hprevious, hI⟩ := (untouched_apply waitRamp
    haccepted hsteady fun w' h => h.2).run ⟨rfl, hu⟩
  obtain ⟨_, w₂, hrestore, hend⟩ := (untouched_restore (fun hne => haccepted.previous hne
    (previous_keys haccepted happly)) hsteady hprevious).run hI
  rw [overrideAndRestore_run happly hrestore]
  exact hend.1

/-- What the override and the restore with the values it returned leave. -/
def afterRestore (bus : HvBus) (hvPolicy : Option HvPolicy) (acqInfo : Dict Int HV.ChannelConfig)
    (waitRamp : Bool) (w : World HvLists HvCall) : World HvLists HvCall :=
  (overrideAndRestore hvPolicy acqInfo waitRamp bus w).2

/-- After an override and the restore with the values that it returned, a channel that was not
requested, or was not OK, has the set points it had before, and so has every channel that is not bad,
where the line answers its reads by what the boards hold. -/
theorem override_restored (bus : HvBus) (stored : HvCall → Nat → Bool) (boards : Int → SetPoints)
    (hvPolicy : Option HvPolicy) (acqInfo : Dict Int HV.ChannelConfig) (waitRamp : Bool)
    (w : World HvLists HvCall) (ch : Int) :
    ((ch - 1 ∈ acqInfo.keys → ch ∉ w.state.okCh) →
      setPointsAfter bus stored boards (afterRestore bus hvPolicy acqInfo waitRamp w).calls ch =
        setPointsAfter bus stored boards w.calls ch) ∧
    (Truthful bus stored boards (afterRestore bus hvPolicy acqInfo waitRamp w).calls →
      ch ∉ (afterRestore bus hvPolicy acqInfo waitRamp w).state.badCh →
      setPointsAfter bus stored boards (afterRestore bus hvPolicy acqInfo waitRamp w).calls ch =
        setPointsAfter bus stored boards w.calls ch) := by
  unfold afterRestore
  obtain ⟨u, rfl⟩ : ∃ u, ch = u + 1 := ⟨ch - 1, (Int.sub_add_cancel ..).symm⟩
  rw [Int.add_sub_cancel]
  by_cases haccepted : Accepted hvPolicy acqInfo.keys
  · refine ⟨left_alone stored boards waitRamp haccepted, fun ht hbad => ?_⟩
    by_cases hu : u ∈ acqInfo.keys → u + 1 ∉ w.state.okCh
    · exact left_alone stored boards waitRamp haccepted hu
    · obtain ⟨hmem, hok⟩ := Classical.not_imp.1 hu
      obtain ⟨_, rfl, hend⟩ := restored_or_bad bus stored boards waitRamp haccepted hmem
        (not_not.1 hok)
      exact hend.resolve_left hbad ht
  · have hnothing : (overrideAndRestore hvPolicy acqInfo waitRamp bus w).2 = w :=
      congrArg Prod.snd (bind_of_ok (applyHvOverride_rejected waitRamp haccepted w))
    rw [hnothing]
    exact ⟨fun _ => rfl, fun _ _ => rfl⟩

/-! ## One channel -/

/-- Channel 1 at 700 V with the threshold 20. -/
def oneBoard : Int → SetPoints := fun _ => { voltage := 700, threshold := 20 }

/-- The override asks for 800 V and the threshold 30. -/
def oneOverride : Dict Int HV.ChannelConfig :=
  Dict.empty.set 0 { voltage := some 800, threshold := some 30 }

/-- The reads of channel 1 return what it held, and after the override what was written; a write of
the threshold 30 succeeds or fails. -/
def oneBus (thresholdAnswer : Except String Unit) : HvBus where
  answer
    | .getVoltageSet _, n => .ok (if n = 0 then (700 : Nat) else (800 : Nat))
    | .getThreshold _, n => .ok (if n = 0 then (20 : Nat) else (30 : Nat))
    | .setThreshold 30 _, _ => thresholdAnswer
    | .setThreshold _ _, _ | .setVoltageSet _ _, _ => .ok ()
    | _, _ => .error "no answer"
  rounds _ := 0

def oneChannel : World HvLists HvCall := { state := { okCh := [1], offCh := [1] } }

theorem override_restored_one : setPointsAfter (oneBus (.ok ())) (fun _ _ => false) oneBoard
    (afterRestore (oneBus (.ok ())) (some .fullControl) oneOverride true oneChannel).calls 1 =
      setPointsAfter (oneBus (.ok ())) (fun _ _ => false) oneBoard oneChannel.calls 1 :=
  (override_restored (oneBus (.ok ())) (fun _ _ => false) oneBoard (some .fullControl) oneOverride
    true oneChannel 1).2 (by decide +kernel) (by decide +kernel)

/-- The write of the threshold fails after the one of the voltage: the channel is not configured, and
its voltage stays at 800 V. -/
theorem override_not_restored :
    ((applyHvOverride (some .fullControl) oneOverride true (oneBus (.error "no answer"))
      oneChannel).1.toOption.join.map HvOutcome.configured) = some [] ∧
    Truthful (oneBus (.error "no answer")) (fun _ _ => false) oneBoard (afterRestore
      (oneBus (.error "no answer")) (some .fullControl) oneOverride true oneChannel).calls ∧
    setPointsAfter (oneBus (.error "no answer")) (fun _ _ => false) oneBoard (afterRestore
      (oneBus (.error "no answer")) (some .fullControl) oneOverride true oneChannel).calls 1 =
        { voltage := 800, threshold := 20 } ∧
    setPointsAfter (oneBus (.error "no answer")) (fun _ _ => false) oneBoard oneChannel.calls 1 =
      { voltage := 700, threshold := 20 } := by
  decide +kernel

end HvOverride

end MultiDAQ.Server
