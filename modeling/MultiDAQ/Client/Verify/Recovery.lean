import MultiDAQ.Client.Verify.PowerWait

/-!
# The recovery of the channels that are off

`recover_ok_off_acquisition` checks the OK channels that are off, writes the stored parameters of the
ones that passed, and powers on the ones that passed, whether the parameters were written or not: the
list of the configured channels is collected and not used. A channel that passes the check and is not
configured is powered on, and it is listed as still bad beside being recovered, or twice. What the
recovery should do it does exactly if there is no such channel (`powersOn_configured_iff`).
-/

namespace MultiDAQ.Client

open MultiDAQ.Lib MultiDAQ.Lib.Interaction

namespace Recovery

variable (bus : HvBus) (acqInfo : HV.AcqInfo) (w₀ : World HvLists HvCall)

/-- The answer to a call that is made for the first time after `w₀`. -/
def answerNow (c : HvCall) : Except String c.Value := bus.answer c (w₀.calls.count c)

/-- The channel passes the safety check. -/
structure Safe (ch : Int) : Prop where
  address : HVModBus.checkAddressBoundary ch = true
  answers : ∃ a, answerNow bus w₀ (.readAddress ch) = .ok a
  status : ∃ code, answerNow bus w₀ (.getStatus ch) = .ok code ∧ statusString code ≠ .trip
  alarm : ∃ code, answerNow bus w₀ (.getAlarm ch) = .ok code ∧ alarmString code = "none"

/-- The channel has stored parameters and accepts them. -/
def Configured (ch : Int) : Prop :=
  ∃ voltage threshold,
    acqInfo.get? ch = some { voltage := some voltage, threshold := some threshold } ∧
    answerNow bus w₀ (.setVoltageSet (HV.pyRound voltage) ch) = .ok () ∧
    answerNow bus w₀ (.setThreshold (HV.pyRound threshold) ch) = .ok ()

/-- No call but the ones in `done` has been made for the channel since `w₀`. -/
def AskedOnly (done : List HvCall) (ch : Int) (w : World HvLists HvCall) : Prop :=
  ∀ c, c.slave? = some ch → c ∉ done → w.calls.count c = w₀.calls.count c

/-- The calls of the safety check. -/
def checks (ch : Int) : List HvCall := [.getAlarm ch, .getStatus ch, .readAddress ch]

/-- How far the recovery is with a channel. -/
inductive Stage
  | unread
  | checked (outcome : Option Bool)
  | configured (outcome : Option Unit)

def At (ch : Int) : Stage → World HvLists HvCall → Prop
  | .unread, w => AskedOnly w₀ [] ch w
  | .checked outcome, w => AskedOnly w₀ (checks ch) ch w ∧ (outcome = some true ↔ Safe bus w₀ ch)
  | .configured outcome, _ => outcome = some () ↔ Configured bus acqInfo w₀ ch

variable {bus acqInfo w₀} {w : World HvLists HvCall} {ch x : Int} {done : List HvCall}

theorem AskedOnly.mono {done' : List HvCall} (h : AskedOnly w₀ done ch w)
    (hsub : ∀ c ∈ done, c ∈ done') : AskedOnly w₀ done' ch w :=
  fun c hc hnot => h c hc fun hmem => hnot (hsub c hmem)

theorem AskedOnly.issue {c : HvCall} (h : AskedOnly w₀ done ch w) :
    AskedOnly w₀ (c :: done) ch (w.issue c) := fun c' hc' hnot => by
  rw [List.mem_cons, not_or] at hnot
  rw [World.issue_calls, List.count_append, List.count_singleton,
    if_neg (by simpa using fun heq => hnot.1 heq.symm), Nat.add_zero]
  exact h c' hc' hnot.2

theorem elsewhere_askedOnly (hx : ch ≠ x) : Elsewhere x (AskedOnly w₀ done ch) where
  issue := fun {w c} hc h c' hc' hnot => by
    have hne : c ≠ c' := fun heq => hx (Option.some.inj (hc'.symm.trans (heq ▸ hc)))
    rw [World.issue_calls, List.count_append, List.count_singleton, if_neg (by simpa using hne),
      Nat.add_zero]
    exact h c' hc' hnot
  moveToBad h := h
  moveToOn h := h
  moveToOff h := h

theorem elsewhere_at {stage : Stage} (hx : ch ≠ x) : Elsewhere x (At bus acqInfo w₀ ch stage) := by
  have hasked : ∀ done, Elsewhere x (AskedOnly w₀ done ch) := fun _ => elsewhere_askedOnly hx
  cases stage with
  | unread => exact hasked []
  | checked outcome =>
    exact {
      issue := fun hc h => ⟨(hasked _).issue hc h.1, h.2⟩
      moveToBad := fun h => h
      moveToOn := fun h => h
      moveToOff := fun h => h }
  | configured outcome => exact ⟨fun _ h => h, fun h => h, fun h => h, fun h => h⟩

/-- A call of the channel that has not been made since `w₀`. -/
theorem triple_first {c : HvCall} (hc : c.slave? = some ch) (hnew : c ∉ done) :
    Triple bus (AskedOnly w₀ done ch) (call c)
      (fun a w => AskedOnly w₀ (c :: done) ch w ∧ answerNow bus w₀ c = .ok a)
      fun w => AskedOnly w₀ (c :: done) ch w ∧ ∃ e, answerNow bus w₀ c = .error e := by
  refine triple_call (fun w a hw ha => ⟨hw.issue, ?_⟩) fun w e hw he => ⟨hw.issue, e, ?_⟩
  · rwa [hw c hc hnew] at ha
  · rwa [hw c hc hnew] at he

theorem triple_addressAnswers : Triple bus (AskedOnly w₀ [] ch) (HV.addressAnswers ch)
    (fun answers w => AskedOnly w₀ [.readAddress ch] ch w ∧ (answers = true ↔
      HVModBus.checkAddressBoundary ch = true ∧
        ∃ a, answerNow bus w₀ (.readAddress ch) = .ok a)) fun _ => False := by
  unfold HV.addressAnswers
  split
  next hboundary =>
    refine triple_try (triple_map ((triple_first rfl List.not_mem_nil).conseq (fun _ h => h)
      (fun a w h => ⟨h.1, iff_of_true rfl ⟨hboundary, a, h.2⟩⟩) fun _ h => h)) fun _ => ?_
    refine triple_pure fun w h => ⟨h.1, iff_of_false nofun ?_⟩
    rintro ⟨-, a, ha⟩
    obtain ⟨e, he⟩ := h.2
    cases ha.symm.trans he
  next hboundary =>
    exact triple_pure fun w h => ⟨h.mono nofun, iff_of_false nofun fun h => hboundary h.1⟩

theorem triple_safeToRecover : Triple bus (AskedOnly w₀ [] ch) (HV.safeToRecover ch)
    (fun safe w => AskedOnly w₀ (checks ch) ch w ∧ (safe = true ↔ Safe bus w₀ ch))
    fun w => AskedOnly w₀ (checks ch) ch w ∧ ¬ Safe bus w₀ ch := by
  refine triple_bind (triple_addressAnswers.conseq (fun _ h => h) (fun _ _ h => h)
    fun _ h => h.elim) fun answers => ?_
  split
  next htrue =>
    intro w hw
    obtain ⟨hboundary, haddress⟩ := hw.2.1 htrue
    refine triple_bind (P := AskedOnly w₀ [.readAddress ch] ch) (Q := fun status w =>
      AskedOnly w₀ [.getStatus ch, .readAddress ch] ch w ∧
        ∃ code, answerNow bus w₀ (.getStatus ch) = .ok code ∧ statusString code = status)
      ?_ (fun status => ?_) w hw.1
    · refine triple_map ((triple_first rfl (by simp)).conseq (fun _ h => h)
        (fun code w h => ⟨h.1, code, h.2, rfl⟩) fun w h => ⟨h.1.mono (by simp [checks]), ?_⟩)
      intro hsafe
      obtain ⟨e, he⟩ := h.2
      obtain ⟨code, hcode, -⟩ := hsafe.status
      cases hcode.symm.trans he
    · split
      next htrip =>
        refine triple_pure fun w h => ⟨h.1.mono (by simp [checks]), iff_of_false nofun ?_⟩
        intro hsafe
        obtain ⟨code, hcode, hne⟩ := hsafe.status
        obtain ⟨code', hcode', hstatus⟩ := h.2
        obtain rfl := Except.ok.inj (hcode.symm.trans hcode')
        exact hne (hstatus.trans htrip)
      next htrip =>
        intro w hw
        obtain ⟨code, hcode, hstatus⟩ := hw.2
        refine triple_bind (P := AskedOnly w₀ [.getStatus ch, .readAddress ch] ch)
          (Q := fun alarm w => AskedOnly w₀ (checks ch) ch w ∧
            ∃ code, answerNow bus w₀ (.getAlarm ch) = .ok code ∧ alarmString code = alarm)
          (triple_map ((triple_first rfl (by simp)).conseq (fun _ h => h)
            (fun code w h => ⟨h.1, code, h.2, rfl⟩) fun w h => ⟨h.1, fun hsafe => ?_⟩))
          (fun alarm => triple_pure fun w h => ⟨h.1, ?_⟩) w hw.1
        · obtain ⟨e, he⟩ := h.2
          obtain ⟨code, hcode, -⟩ := hsafe.alarm
          cases hcode.symm.trans he
        · obtain ⟨code', halarm, hstring⟩ := h.2
          rw [decide_eq_true_eq]
          constructor
          · intro hnone
            exact ⟨hboundary, haddress, ⟨code, hcode, fun h => htrip (hstatus.symm.trans h)⟩,
              code', halarm, hstring.trans hnone⟩
          · intro hsafe
            obtain ⟨code'', halarm', hnone⟩ := hsafe.alarm
            obtain rfl := Except.ok.inj (halarm.symm.trans halarm')
            exact hstring.symm.trans hnone
  next hfalse =>
    refine triple_pure fun w h => ⟨h.1.mono (by simp [checks]), iff_of_false nofun ?_⟩
    exact fun hsafe => hfalse (h.2.2 ⟨hsafe.address, hsafe.answers⟩)

theorem triple_check : Triple bus (At bus acqInfo w₀ ch .unread)
    (attempt (HV.safeToRecover ch) (pure ())) (fun o => At bus acqInfo w₀ ch (.checked o))
    fun _ => False := by
  refine triple_try (triple_map (triple_safeToRecover.conseq (fun _ h => h)
    (fun safe w h => ⟨h.1, ?_⟩) fun _ h => h)) fun _ => ?_
  · rw [Option.some_inj]
    exact h.2
  · exact fun w h => ⟨h.1, iff_of_false nofun h.2⟩

theorem triple_restoreParameters {outcome : Option Bool} :
    Triple bus (At bus acqInfo w₀ ch (.checked outcome)) (HV.restoreParameters acqInfo ch)
      (fun o => At bus acqInfo w₀ ch (.configured o)) fun _ => False := by
  unfold HV.restoreParameters
  split
  next voltage threshold hget =>
    have hconfigured : Configured bus acqInfo w₀ ch ↔
        answerNow bus w₀ (.setVoltageSet (HV.pyRound voltage) ch) = .ok () ∧
          answerNow bus w₀ (.setThreshold (HV.pyRound threshold) ch) = .ok () := by
      constructor
      · rintro ⟨v, t, h, hv, ht⟩
        cases hget.symm.trans h
        exact ⟨hv, ht⟩
      · exact fun h => ⟨voltage, threshold, hget, h⟩
    have hwrites : Triple bus (At bus acqInfo w₀ ch (.checked outcome)) (do
          HVModBus.setVoltageSet (HV.pyRound voltage) ch
          HVModBus.setThreshold (HV.pyRound threshold) ch)
        (fun _ _ => Configured bus acqInfo w₀ ch) fun _ => ¬ Configured bus acqInfo w₀ ch := by
      rw [hconfigured]
      refine triple_bind ((triple_first rfl (by simp [checks])).conseq (fun _ h => h.1)
        (fun _ _ h => h) fun w h hboth => ?_) fun _ => ?_
      · obtain ⟨e, he⟩ := h.2
        cases hboth.1.symm.trans he
      · intro w hw
        have hnew : HvCall.setThreshold (HV.pyRound threshold) ch ∉
            .setVoltageSet (HV.pyRound voltage) ch :: checks ch := by simp [checks]
        refine (triple_first rfl hnew w hw.1).imp (fun _ _ h => ⟨hw.2, h.2⟩) fun _ h hboth => ?_
        obtain ⟨e, he⟩ := h.2
        cases hboth.2.symm.trans he
    refine triple_try (triple_map (hwrites.conseq (fun _ h => h) (fun _ _ h => iff_of_true rfl h)
      fun _ h => h)) fun _ => ?_
    exact fun w h => iff_of_false nofun h
  next hmissing =>
    refine triple_pure fun w _ => iff_of_false nofun ?_
    rintro ⟨voltage, threshold, hget, -⟩
    exact hmissing voltage threshold hget

/-! ## A recovery -/

/-- How often a channel has been powered on. -/
def powerOns (w : World HvLists HvCall) (ch : Int) : Nat := w.calls.count (.powerOn ch)

/-- Nothing but a power-on changes how often a channel has been powered on. -/
theorem respected_powerOns (ch : Int) (n : Nat) :
    Respected (fun _ => True) fun w => powerOns w ch = n where
  issue := fun {w c} hc h => by
    unfold powerOns at h ⊢
    rw [World.issue_calls, List.count_append, h, List.count_singleton,
      if_neg (by simpa using hc ch), Nat.add_zero]
  moveToOk _ h := h
  moveToBad _ h := h
  moveToOn h := h
  moveToOff h := h
  ok _ _ _ := trivial
  bad _ _ _ := trivial

theorem elsewhere_powerOns {n : Nat} (hx : ch ≠ x) :
    Elsewhere x fun w => powerOns w ch = n where
  issue := fun {w c} hc h => by
    have hne : c ≠ .powerOn ch := fun heq => hx (by
      rw [heq] at hc
      exact Option.some.inj hc)
    unfold powerOns at h ⊢
    rw [World.issue_calls, List.count_append, h, List.count_singleton, if_neg (by simpa using hne),
      Nat.add_zero]
  moveToBad h := h
  moveToOn h := h
  moveToOff h := h

/-- The check and the configuration of the channels: which ones are safe, and which ones of these are
configured. Nothing has been powered on so far. -/
theorem recoverChannels_run (bus : HvBus) (acqInfo : HV.AcqInfo) {okOff : List Int}
    (hnodup : okOff.Nodup) (w : World HvLists HvCall) : ∃ safe rest configured w',
      (∀ ch, ch ∈ safe ↔ ch ∈ okOff ∧ Safe bus w ch) ∧ okOff.Perm (safe ++ rest) ∧
      configured.map Prod.fst = safe ∧
      (∀ e ∈ configured, e.2 = some () ↔ Configured bus acqInfo w e.1) ∧
      (∀ ch, powerOns w' ch = powerOns w ch) ∧
      HV.recoverChannels acqInfo okOff bus w = (HV.powerSafe safe >>= fun successful => pure {
        data := .recovery okOff (safe.filter (· ∈ successful)) [] []
          (rest ++ HV.failures configured ++ safe.filter (· ∉ successful)) }) bus w' := by
  have hchecks : ∀ ch ∈ okOff, Advances bus (At bus acqInfo w) ch .unread .checked
      (attempt (HV.safeToRecover ch) (pure ())) := fun ch _ => .of_triple triple_check
    fun y stage hy => keeps_attempt (elsewhere_at hy).safeToRecover (keeps_pure ())
  obtain ⟨outcomes, w₁, hrun₁, hkeys, hchecked, -⟩ := mapEach_advances okOff hchecks hnodup w
    fun _ _ _ _ _ => rfl
  set safe := (outcomes.filter (·.2 = some true)).map (·.1) with hsafe
  set rest := (outcomes.filter (·.2 ≠ some true)).map (·.1) with hrest
  have hmem : ∀ ch, ch ∈ safe ↔ ch ∈ okOff ∧ Safe bus w ch := by
    intro ch
    rw [← hkeys, hsafe]
    simp only [List.mem_map, List.mem_filter, decide_eq_true_eq]
    constructor
    · rintro ⟨e, ⟨he, htrue⟩, rfl⟩
      exact ⟨⟨e, he, rfl⟩, (hchecked e he).2.1 htrue⟩
    · rintro ⟨⟨e, he, rfl⟩, h⟩
      exact ⟨e, ⟨he, (hchecked e he).2.2 h⟩, rfl⟩
  have hperm : okOff.Perm (safe ++ rest) := by
    have h := (List.filter_append_perm (fun e : Int × Option Bool => e.2 = some true) outcomes).symm
    have h := h.map Prod.fst
    rw [hkeys, List.map_append] at h
    simpa only [hsafe, hrest, ne_eq, decide_not] using h
  have hsafeNodup : safe.Nodup := (List.nodup_append'.1 (hperm.nodup_iff.1 hnodup)).1
  have hrestores : ∀ ch ∈ safe, Advances bus (At bus acqInfo w) ch (.checked (some true))
      .configured (HV.restoreParameters acqInfo ch) := fun ch _ => .of_triple
    triple_restoreParameters fun y stage hy => (elsewhere_at hy).restoreParameters
  obtain ⟨configured, w₂, hrun₂, hkeys₂, hconfigured, -⟩ := mapEach_advances safe hrestores
    hsafeNodup w₁ fun ch hch => by
      obtain ⟨e, he, rfl⟩ := List.mem_map.1 hch
      obtain ⟨he, htrue⟩ := List.mem_filter.1 he
      rw [← of_decide_eq_true htrue]
      exact hchecked e he
  refine ⟨safe, rest, configured, w₂, hmem, hperm, hkeys₂, hconfigured, fun ch => ?_, ?_⟩
  · have hresp := respected_powerOns ch (powerOns w ch)
    have h₁ : powerOns w₁ ch = powerOns w ch := (keeps_mapEach fun _ _ =>
      keeps_attempt hresp.safeToRecover (keeps_pure ())).of_run hrun₁ rfl
    exact (keeps_mapEach fun _ _ => hresp.restoreParameters trivial).of_run hrun₂ h₁
  · exact (bind_of_ok hrun₁).trans (bind_of_ok hrun₂)

/-- Powering on the safe channels: a list with a channel that does not exist is refused; else some
of the channels come up, and nothing is done to another channel. -/
theorem powerSafe_run (bus : HvBus) {safe : List Int} (hnodup : safe.Nodup)
    (w : World HvLists HvCall) :
    ((∃ ch ∈ safe, ch < 1 ∨ 7 < ch) ∧ ∃ e, HV.powerSafe safe bus w = (.error e, w)) ∨
    ((∀ ch ∈ safe, 1 ≤ ch ∧ ch ≤ 7) ∧
      ∃ successful w', HV.powerSafe safe bus w = (.ok successful, w') ∧
        (∀ ch ∈ successful, ch ∈ safe ∧ lastSeen bus w' ch = some .up ∧ ch ∈ w'.state.onCh) ∧
        ∀ I, (∀ ch ∈ safe, Elsewhere ch I) → I w → I w') := by
  unfold HV.powerSafe
  split
  next hnil => exact .inr ⟨by simp [hnil], [], w, rfl, nofun, fun _ _ h => h⟩
  next =>
    by_cases hvalid : ∀ ch ∈ safe, 1 ≤ ch ∧ ch ≤ 7
    · have hchs : hvChannelsDefinition (.list safe) = .ok safe := definition_of_valid hvalid
      obtain ⟨result, w', hrun, hused, hpartition, hkept⟩ :=
        PowerGoal.on.request_run bus hchs hnodup w
      have hsub : ∀ ch ∈ result.usedChannels, ch ∈ safe := fun ch hch => by
        rw [hused] at hch
        exact (List.mem_filter.1 hch).1
      refine .inr ⟨hvalid, result.successfulChannels, w', map_of_ok hrun, fun ch hch => ?_,
        fun I hI => hkept I fun ch hch => hI ch (hsub ch hch)⟩
      have harrived := hpartition.arrived ch hch
      exact ⟨hsub ch (hpartition.failed.symm.subset (List.mem_append_left _ hch)), harrived.seen,
        harrived.listed⟩
    · have hinvalid : ∃ ch ∈ safe, ch < 1 ∨ 7 < ch := by
        by_contra hnone
        exact hvalid fun ch hch => by
          by_contra hout
          exact hnone ⟨ch, hch, by omega⟩
      have hlist : ∃ ch ∈ (ChannelsArg.list safe).chList 7, ch < 1 ∨ 7 < ch := hinvalid
      obtain ⟨e, hrun⟩ := PowerGoal.on.request_raises bus hlist w
      exact .inl ⟨hinvalid, e, bind_of_error hrun⟩

/-- Every channel that is powered on is safe, and configured by the recovery. -/
def PowersConfigured (bus : HvBus) (acqInfo : Option HV.AcqInfo) (w w' : World HvLists HvCall) :
    Prop :=
  ∀ ch, powerOns w ch < powerOns w' ch →
    Safe bus w ch ∧ ∃ info, acqInfo = some info ∧ Configured bus info w ch

/-- What a recovery that began in `w` should return in `w'`. -/
structure Sound (bus : HvBus) (acqInfo : Option HV.AcqInfo) (w : World HvLists HvCall)
    (result : HvResult) (w' : World HvLists HvCall) : Prop where
  powered : PowersConfigured bus acqInfo w w'
  lists : ∃ recovered stillBad,
    result.data = .recovery w.state.okOffChannels recovered [] [] stillBad ∧
    (recovered ++ stillBad).Perm w.state.okOffChannels ∧ (recovered ++ stillBad).Nodup ∧
    ∀ ch ∈ recovered, (∃ info, acqInfo = some info ∧ Configured bus info w ch) ∧
      lastSeen bus w' ch = some .up ∧ ch ∈ w'.state.onCh

/-- There is nothing to recover with, or `on_and_wait` refuses the safe channels, or every safe
channel is configured. -/
def ConfiguresSafe (bus : HvBus) (acqInfo : Option HV.AcqInfo) (w : World HvLists HvCall) : Prop :=
  ∀ info, acqInfo = some info → info.entries = [] ∨
    (∃ ch ∈ w.state.okOffChannels, Safe bus w ch ∧ 7 < ch) ∨
    ∀ ch ∈ w.state.okOffChannels, Safe bus w ch → Configured bus info w ch

theorem nodup_okOffChannels (s : HvLists) : s.okOffChannels.Nodup :=
  (List.perm_insertionSort _ _).nodup_iff.2 (List.nodup_dedup _)

theorem Safe.one_le {w : World HvLists HvCall} (h : Safe bus w ch) : 1 ≤ ch :=
  (of_decide_eq_true h.address).1

/-- A result that recovers nothing. -/
theorem Sound.nothing {acqInfo : Option HV.AcqInfo} {result : HvResult}
    (hdata : result.data = .recovery w.state.okOffChannels [] [] [] w.state.okOffChannels) :
    Sound bus acqInfo w result w where
  powered _ h := absurd h (Nat.lt_irrefl _)
  lists := ⟨[], _, hdata, .refl _, nodup_okOffChannels _, nofun⟩

/-- The lists of a recovery whose safe channels are `safe`. -/
theorem perm_recovered {okOff safe rest : List Int} (successful : List Int)
    (hperm : okOff.Perm (safe ++ rest)) :
    (safe.filter (· ∈ successful) ++ (rest ++ safe.filter (· ∉ successful))).Perm okOff := by
  rw [List.perm_iff_count]
  intro ch
  have h₁ := hperm.count_eq ch
  have h₂ := (perm_filter_notMem safe successful).count_eq ch
  simp only [List.count_append] at h₁ h₂ ⊢
  omega

theorem recoverChannels_sound_iff (bus : HvBus) (info : HV.AcqInfo) (w : World HvLists HvCall) :
    Ends (Sound bus (some info) w) (PowersConfigured bus (some info) w)
        (HV.recoverChannels info w.state.okOffChannels bus w) ↔
      (∃ ch ∈ w.state.okOffChannels, Safe bus w ch ∧ 7 < ch) ∨
        ∀ ch ∈ w.state.okOffChannels, Safe bus w ch → Configured bus info w ch := by
  have hnodup := nodup_okOffChannels w.state
  obtain ⟨safe, rest, configured, w₂, hsafe, hperm, hkeys, hconfigured, hunpowered, hrun⟩ :=
    recoverChannels_run bus info hnodup w
  have hsafeNodup : safe.Nodup := (List.nodup_append'.1 (hperm.nodup_iff.1 hnodup)).1
  rw [hrun]
  rcases powerSafe_run bus hsafeNodup w₂ with ⟨⟨ch, hch, hout⟩, e, he⟩ |
    ⟨hvalid, successful, w', hpower, hsuccessful, hkept⟩
  · rw [bind_of_error he]
    obtain ⟨hoff, hsafeCh⟩ := (hsafe ch).1 hch
    refine iff_of_true (fun x hx => ?_) (.inl ⟨ch, hoff, hsafeCh, hout.resolve_left ?_⟩)
    · rw [hunpowered] at hx
      exact absurd hx (Nat.lt_irrefl _)
    · exact Int.not_lt.2 hsafeCh.one_le
  · rw [bind_of_ok hpower, or_iff_right]
    · have hfailures : ∀ ch, ch ∈ HV.failures configured ↔
          ch ∈ safe ∧ ¬ Configured bus info w ch := by
        intro ch
        rw [mem_failures, ← hkeys, List.mem_map]
        constructor
        · intro h
          exact ⟨⟨_, h, rfl⟩, fun hc => nomatch (hconfigured _ h).2 hc⟩
        · rintro ⟨⟨⟨_, o⟩, ho, rfl⟩, hnot⟩
          cases o with
          | none => exact ho
          | some a => exact absurd ((hconfigured _ ho).1 rfl) hnot
      have hpowered : ∀ ch, powerOns w ch < powerOns w' ch → ch ∈ safe := fun ch hlt => by
        by_contra hnot
        have hsame := hkept (fun v => powerOns v ch = powerOns w ch)
          (fun x hx => elsewhere_powerOns fun heq => hnot (heq ▸ hx)) (hunpowered ch)
        omega
      constructor
      · -- an unconfigured safe channel is listed twice
        rintro ⟨-, recovered, stillBad, hdata, -, hlists, -⟩ ch hch hsafeCh
        cases hdata
        by_contra hnot
        have hin := (hsafe ch).2 ⟨hch, hsafeCh⟩
        have hfail := (hfailures ch).2 ⟨hin, hnot⟩
        have hcount := List.nodup_iff_count_le_one.1 hlists ch
        have hfilter := (perm_filter_notMem safe successful).count_eq ch
        have hone := List.count_pos_iff.2 hin
        have htwo := List.count_pos_iff.2 hfail
        simp only [List.count_append] at hcount hfilter
        omega
      · intro hall
        have hnone : HV.failures configured = [] := List.eq_nil_iff_forall_not_mem.2 fun ch hch => by
          obtain ⟨hin, hnot⟩ := (hfailures ch).1 hch
          obtain ⟨hoff, hsafeCh⟩ := (hsafe ch).1 hin
          exact hnot (hall ch hoff hsafeCh)
        have hconf : ∀ ch ∈ safe, Configured bus info w ch := fun ch hch => by
          obtain ⟨hoff, hsafeCh⟩ := (hsafe ch).1 hch
          exact hall ch hoff hsafeCh
        have hlists := perm_recovered successful hperm
        rw [hnone, List.append_nil]
        refine ⟨fun ch hlt => ?_, _, _, rfl, hlists, hlists.nodup_iff.2 hnodup, fun ch hch => ?_⟩
        · have hin := hpowered ch hlt
          exact ⟨((hsafe ch).1 hin).2, info, rfl, hconf ch hin⟩
        · obtain ⟨hin, hsucc⟩ := List.mem_filter.1 hch
          exact ⟨⟨info, rfl, hconf ch hin⟩, (hsuccessful ch (of_decide_eq_true hsucc)).2⟩
    · rintro ⟨ch, hoff, hsafeCh, hlt⟩
      have := (hvalid ch ((hsafe ch).2 ⟨hoff, hsafeCh⟩)).2
      omega

theorem ends_withLists_sound {acqInfo : Option HV.AcqInfo} {p : HvM HvResult}
    {v : World HvLists HvCall} {E : World HvLists HvCall → Prop} :
    Ends (Sound bus acqInfo w) E (HV.withLists p bus v) ↔
      Ends (Sound bus acqInfo w) E (p bus v) := by
  rcases h : p bus v with ⟨e | result, v'⟩
  · rw [HV.withLists, bind_of_error h]
  · rw [HV.withLists, bind_of_ok h]
    exact ⟨fun h => ⟨h.powered, h.lists⟩, fun h => ⟨h.powered, h.lists⟩⟩

/-- The recovery powers on and recovers only what it has configured, and splits the checked channels,
exactly if every safe channel is configured. -/
theorem powersOn_configured_iff (bus : HvBus) (acqInfo : Option HV.AcqInfo)
    (w : World HvLists HvCall) :
    Ends (Sound bus acqInfo w) (PowersConfigured bus acqInfo w)
      (HV.recoverOkOffAcquisition acqInfo bus w) ↔ ConfiguresSafe bus acqInfo w := by
  refine ends_withLists_sound.trans ((Eq.to_iff (congrArg _ (bind_of_ok rfl))).trans ?_)
  split
  next hnil =>
    have hnil : w.state.okOffChannels = [] := hnil
    refine iff_of_true (Sound.nothing (by rw [hnil])) fun _ _ => .inr (.inr ?_)
    simp [hnil]
  next =>
    cases acqInfo with
    | none => exact iff_of_true (Sound.nothing rfl) nofun
    | some info =>
      have hiff : ConfiguresSafe bus (some info) w ↔ info.entries = [] ∨
          (∃ ch ∈ w.state.okOffChannels, Safe bus w ch ∧ 7 < ch) ∨
          ∀ ch ∈ w.state.okOffChannels, Safe bus w ch → Configured bus info w ch :=
        ⟨fun h => h info rfl, fun h _ heq => Option.some.inj heq ▸ h⟩
      rw [hiff]
      dsimp only
      split
      next hempty => exact iff_of_true (Sound.nothing rfl) (.inl hempty)
      next hentries => rw [recoverChannels_sound_iff, or_iff_right hentries]

theorem powersConfigured_of_ends {acqInfo : Option HV.AcqInfo}
    {r : Except String HvResult × World HvLists HvCall}
    (h : Ends (Sound bus acqInfo w) (PowersConfigured bus acqInfo w) r) :
    PowersConfigured bus acqInfo w r.2 := by
  obtain ⟨_ | result, w'⟩ := r
  · exact h
  · exact h.powered

/-- Boards that were down when they were looked at first, and then come up. -/
def recoveringBus : HvBus where
  answer
    | .getStatus _, 0 => .ok (1 : Nat)
    | .getStatus _, _ => .ok (0 : Nat)
    | c, n => answeringBus.answer c n
  rounds _ := 3

/-- Parameters are stored for channel 1. -/
def storedForOne : HV.AcqInfo :=
  Dict.empty.set 1 { voltage := some 700, threshold := some 50 }

/-- Channel 3 has no stored parameters and is powered on. -/
theorem powersOn_unconfigured :
    ¬ Ends (Sound recoveringBus (some storedForOne) { state := { okCh := [3], offCh := [3] } })
      (PowersConfigured recoveringBus (some storedForOne)
        { state := { okCh := [3], offCh := [3] } })
      (HV.recoverOkOffAcquisition (some storedForOne) recoveringBus
        { state := { okCh := [3], offCh := [3] } }) := by
  intro h
  obtain ⟨-, info, heq, voltage, threshold, hget, -⟩ :=
    powersConfigured_of_ends h 3 (by decide +kernel)
  cases heq
  cases hget

end Recovery

end MultiDAQ.Client
