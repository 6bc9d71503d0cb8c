import MultiDAQ.Client.Verify.CommandRules

/-!
# The set points of the boards

The voltage and the threshold that the boards hold, as the calls on the line and their answers
determine them (`setPointsAfter`): a write that is answered stores its value, one that is answered by
an error may have stored it (`stored`), and no other call changes a register. A line is `Truthful`
where a read that is answered returns what the board holds.

`set_acquisition_configuration` writes the set points of the requested OK channels and reads them
before: `triple_setAcquisitionConfiguration` says what becomes of one channel.
-/

namespace MultiDAQ.Client

open MultiDAQ.Lib MultiDAQ.Lib.Interaction

/-! ## The registers -/

/-- The slave whose set points a call writes. -/
def HvCall.writes? : HvCall → Option Int
  | .setVoltageSet _ slave | .setThreshold _ slave => some slave
  | _ => none

section Registers

variable (bus : HvBus) (stored : HvCall → Nat → Bool)

/-- Whether the `n`-th issue of a write changes the register. -/
def takesEffect (c : HvCall) (n : Nat) : Bool := (bus.answer c n).isOk || stored c n

/-- The set points after the `n`-th issue of a call. -/
def HvCall.store (c : HvCall) (n : Nat) (boards : Int → SetPoints) : Int → SetPoints :=
  match c with
  | .setVoltageSet value slave =>
    if takesEffect bus stored (.setVoltageSet value slave) n then
      Function.update boards slave { boards slave with voltage := value }
    else boards
  | .setThreshold value slave =>
    if takesEffect bus stored (.setThreshold value slave) n then
      Function.update boards slave { boards slave with threshold := value }
    else boards
  | _ => boards

def setPointsAfter (boards : Int → SetPoints) (calls : List HvCall) : Int → SetPoints :=
  (calls.foldl (fun (p : List HvCall × (Int → SetPoints)) c =>
    (p.1 ++ [c], c.store bus stored (p.1.count c) p.2)) ([], boards)).2

/-- If the next call reads a set point and is answered, then by what the board holds. -/
def TellsTruth (boards : Int → SetPoints) (calls : List HvCall) : HvCall → Prop
  | .getVoltageSet slave =>
    match bus.answer (.getVoltageSet slave) (calls.count (.getVoltageSet slave)) with
    | .ok volt => Int.ofNat volt = (setPointsAfter bus stored boards calls slave).voltage
    | .error _ => True
  | .getThreshold slave =>
    match bus.answer (.getThreshold slave) (calls.count (.getThreshold slave)) with
    | .ok thr => Int.ofNat thr = (setPointsAfter bus stored boards calls slave).threshold
    | .error _ => True
  | _ => True

/-- The calls of the second list, issued after those of the first, are answered truthfully. -/
def TruthfulSince (boards : Int → SetPoints) : List HvCall → List HvCall → Prop
  | _, [] => True
  | seen, c :: calls =>
    TellsTruth bus stored boards seen c ∧ TruthfulSince boards (seen ++ [c]) calls

def Truthful (boards : Int → SetPoints) (calls : List HvCall) : Prop :=
  TruthfulSince bus stored boards [] calls

instance TellsTruth.decidable (boards : Int → SetPoints) (calls : List HvCall) (c : HvCall) :
    Decidable (TellsTruth bus stored boards calls c) := by
  unfold TellsTruth
  split
  · split <;> infer_instance
  · split <;> infer_instance
  · infer_instance

instance TruthfulSince.decidable (boards : Int → SetPoints) : ∀ seen calls : List HvCall,
    Decidable (TruthfulSince bus stored boards seen calls)
  | _, [] => .isTrue trivial
  | seen, c :: calls =>
    have := TruthfulSince.decidable boards (seen ++ [c]) calls
    inferInstanceAs (Decidable (_ ∧ _))

instance Truthful.decidable (boards : Int → SetPoints) (calls : List HvCall) :
    Decidable (Truthful bus stored boards calls) :=
  inferInstanceAs (Decidable (TruthfulSince bus stored boards [] calls))

end Registers

section RegisterLemmas

variable {bus : HvBus} {stored : HvCall → Nat → Bool} {boards : Int → SetPoints}
variable {calls : List HvCall} {c : HvCall} {ch : Int}

theorem setPointsAfter_append_single : setPointsAfter bus stored boards (calls ++ [c]) =
    c.store bus stored (calls.count c) (setPointsAfter bus stored boards calls) :=
  accumulate_append_single (HvCall.store bus stored) boards calls c

/-- A call writes no register but the ones of its slave. -/
theorem setPointsAfter_other (h : c.writes? ≠ some ch) :
    setPointsAfter bus stored boards (calls ++ [c]) ch =
      setPointsAfter bus stored boards calls ch := by
  rw [setPointsAfter_append_single]
  unfold HvCall.store
  split
  · split
    · exact Function.update_of_ne (fun heq => h (congrArg some heq.symm)) ..
    · rfl
  · split
    · exact Function.update_of_ne (fun heq => h (congrArg some heq.symm)) ..
    · rfl
  · rfl

theorem truthfulSince_append (seen calls more : List HvCall) :
    TruthfulSince bus stored boards seen (calls ++ more) ↔
      TruthfulSince bus stored boards seen calls ∧
        TruthfulSince bus stored boards (seen ++ calls) more := by
  induction calls generalizing seen with
  | nil => simp [TruthfulSince]
  | cons c calls ih => simp [TruthfulSince, ih, and_assoc]

theorem Truthful.of_append {more : List HvCall}
    (h : Truthful bus stored boards (calls ++ more)) : Truthful bus stored boards calls :=
  ((truthfulSince_append [] calls more).1 h).1

theorem Truthful.last (h : Truthful bus stored boards (calls ++ [c])) :
    TellsTruth bus stored boards calls c :=
  ((truthfulSince_append [] calls [c]).1 h).2.1

theorem TellsTruth.voltage {volt : Nat} (h : TellsTruth bus stored boards calls (.getVoltageSet ch))
    (hanswer : bus.answer (.getVoltageSet ch) (calls.count (.getVoltageSet ch)) = .ok volt) :
    (volt : Int) = (setPointsAfter bus stored boards calls ch).voltage := by
  unfold TellsTruth at h
  dsimp only at h
  rw [hanswer] at h
  exact h

theorem TellsTruth.threshold {thr : Nat} (h : TellsTruth bus stored boards calls (.getThreshold ch))
    (hanswer : bus.answer (.getThreshold ch) (calls.count (.getThreshold ch)) = .ok thr) :
    (thr : Int) = (setPointsAfter bus stored boards calls ch).threshold := by
  unfold TellsTruth at h
  dsimp only at h
  rw [hanswer] at h
  exact h

end RegisterLemmas

/-! ## A channel that is left alone -/

/-- What neither writes the set points of `ch` nor moves it keeps `I`. -/
structure Steady (ch : Int) (I : World HvLists HvCall → Prop) : Prop where
  issue : ∀ {w c}, c.writes? ≠ some ch → I w → I (w.issue c)
  moveToBad : ∀ {w x}, x ≠ ch → I w → I (w.update (·.moveToBad x))

theorem mem_bad_moveToBad {s : HvLists} {ch x : Int} :
    ch ∈ (s.moveToBad x).badCh ↔ ch ∈ s.badCh ∨ ch = x := by
  simp [HvLists.moveToBad, mem_sorted, mem_appendNew]

theorem mem_ok_moveToBad {s : HvLists} {ch x : Int} (h : x ≠ ch) :
    ch ∈ (s.moveToBad x).okCh ↔ ch ∈ s.okCh := by
  simp [HvLists.moveToBad, mem_sorted, List.mem_erase_of_ne h.symm]

theorem steady_bad (ch : Int) : Steady ch fun w => ch ∈ w.state.badCh where
  issue _ h := h
  moveToBad _ h := mem_bad_moveToBad.2 (.inl h)

namespace Steady

variable {bus : HvBus} {ch x : Int} {I : World HvLists HvCall → Prop} (h : Steady ch I)

include h

theorem call {c : HvCall} (hc : c.writes? ≠ some ch) : Keeps bus I (call c) :=
  keeps_call fun _ hw => h.issue hc hw

theorem readStatusAlarm : Keeps bus I (HV.readStatusAlarm x) :=
  keeps_bind (keeps_map (h.call nofun)) fun _ => keeps_bind (keeps_map (h.call nofun)) fun _ =>
    keeps_pure _

theorem readSetPoints : Keeps bus I (HV.readSetPoints x) :=
  keeps_bind (h.call nofun) fun _ => keeps_bind (h.call nofun) fun _ => keeps_pure _

theorem shutdown : Answers bus I (HV.shutdown x) :=
  answers_try_recover (keeps_bind (h.call nofun) fun _ => h.call nofun) fun _ => answers_pure ()

theorem pollRamp : Answers bus I (HV.pollRamp x) := by
  refine answers_bind (answers_attempt_recover h.readStatusAlarm (answers_pure ())) fun outcome => ?_
  cases outcome <;> exact answers_pure _

theorem applyConfig {config : HV.ChannelConfig} (hx : x ≠ ch) :
    Keeps bus I (HV.applyConfig config x) := by
  have hwrites : ∀ slave : Int, slave = x → some slave ≠ some ch := fun slave hslave heq =>
    hx (hslave ▸ Option.some.inj heq)
  exact keeps_bind h.readSetPoints fun _ =>
    keeps_bind (keeps_writeIf (h.call (hwrites x rfl))) fun _ =>
      keeps_bind (keeps_writeIf (h.call (hwrites x rfl))) fun _ => keeps_pure _

theorem configureChannel {config : Option HV.ChannelConfig} (hx : x ≠ ch) :
    Answers bus I (HV.configureChannel config x) := by
  unfold HV.configureChannel
  split
  · exact answers_pure none
  · split
    · exact answers_pure none
    · exact answers_attempt_recover (h.applyConfig hx) (answers_modify fun _ hw => h.moveToBad hx hw)

/-- The channels of the list are switched off and become bad. -/
theorem giveUp (xs : List Int) :
    Triple bus I (forEach xs fun x => do
      HV.shutdown x
      HV.moveToBad x) (fun _ w => if ch ∈ xs then ch ∈ w.state.badCh else I w)
      fun _ => False := by
  induction xs with
  | nil => exact answers_pure ()
  | cons x xs ih =>
    have hbody : Triple bus I (do
        HV.shutdown x
        HV.moveToBad x) (fun _ w => if x = ch then ch ∈ w.state.badCh else I w)
        fun _ => False := by
      refine triple_bind h.shutdown fun _ => triple_modify fun w hw => ?_
      split
      · next hx => exact mem_bad_moveToBad.2 (.inr hx.symm)
      · next hx => exact h.moveToBad hx hw
    refine triple_bind hbody fun _ => ?_
    by_cases hx : x = ch
    · -- once it is bad it stays bad
      refine (answers_forEach (I := fun w => ch ∈ w.state.badCh) fun y _ =>
        answers_bind (steady_bad ch).shutdown fun _ =>
        answers_modify fun _ hbad => mem_bad_moveToBad.2 (.inl hbad)).conseq
        (fun w hw => ?_) (fun _ w hw => ?_) fun _ hw => hw
      · rwa [if_pos hx] at hw
      · rwa [if_pos (List.mem_cons.2 (.inl hx.symm))]
    · refine ih.conseq (fun w hw => ?_) (fun _ w hw => ?_) fun _ hw => hw
      · rwa [if_neg hx] at hw
      · simpa only [List.mem_cons, Ne.symm hx, false_or] using hw

/-- The channels that do not end their ramp are bad, and were waited for. -/
theorem waitRampEnd (channels : List Int) : Triple bus I (HV.waitRampEnd channels)
    (fun failed w => (if ch ∈ failed then ch ∈ w.state.badCh else I w) ∧
      ∀ x ∈ failed, x ∈ channels) fun _ => False := by
  refine triple_bind (Q := fun _ => I) (triple_waitRounds fun _ hw => hw) fun rounds => ?_
  refine triple_bind (triple_pollRounds (C := (· ∈ channels)) (fun x _ => h.pollRamp)
    fun x hx => hx) fun r w hw => ?_
  obtain ⟨hI, hsettled, hleft⟩ := hw
  refine triple_bind (h.giveUp _) (fun _ => triple_pure fun w hw => ⟨hw, fun x hx => ?_⟩) w hI
  rw [mem_sorted, List.mem_dedup, List.mem_append, List.mem_map] at hx
  rcases hx with ⟨e, he, rfl⟩ | hx
  · exact hsettled e (List.mem_filter.1 he).1
  · exact hleft x hx

theorem rampFailures (channels : List Int) : Triple bus I (HV.rampFailures channels)
    (fun failed w => (if ch ∈ failed then ch ∈ w.state.badCh else I w) ∧
      ∀ x ∈ failed, x ∈ channels) fun _ => False := by
  unfold HV.rampFailures
  split
  · exact triple_pure fun _ hw => ⟨hw, nofun⟩
  · exact h.waitRampEnd channels

end Steady

/-! ## What becomes of one channel -/

namespace HV

/-- The set points of a channel whose values are `previous`, after an entry of a configuration. -/
def ChannelConfig.over (config : ChannelConfig) (previous : SetPoints) : SetPoints where
  voltage := (config.voltage.map pyRound).getD previous.voltage
  threshold := (config.threshold.map pyRound).getD previous.threshold

/-- An entry that names neither value. -/
def ChannelConfig.isEmpty (config : ChannelConfig) : Prop :=
  config.voltage = none ∧ config.threshold = none

end HV

namespace SetPoints

variable (bus : HvBus) (stored : HvCall → Nat → Bool) (boards : Int → SetPoints) (ch : Int)

/-- The board of an OK channel holds `s`, and `A` is so if the line has been truthful. -/
structure Holding (A : Prop) (s : SetPoints) (w : World HvLists HvCall) : Prop where
  truth : Truthful bus stored boards w.calls → A
  setPoints : setPointsAfter bus stored boards w.calls ch = s
  ok : ch ∈ w.state.okCh

theorem steady_holding (A : Prop) (s : SetPoints) : Steady ch (Holding bus stored boards ch A s) where
  issue hc h := ⟨fun ht => h.truth ht.of_append, (setPointsAfter_other hc).trans h.setPoints, h.ok⟩
  moveToBad hx h := ⟨h.truth, h.setPoints, (mem_ok_moveToBad hx).2 h.ok⟩

/-- What an entry `config?` makes of a channel that held `r`: `none` for a channel that failed. -/
def Configured (A : Prop) (r : SetPoints) (config? : Option HV.ChannelConfig) :
    Option (SetPoints × SetPoints) → World HvLists HvCall → Prop
  | some (previous, applied), w => ∃ config, config? = some config ∧
    applied = config.over previous ∧
      Holding bus stored boards ch (A ∧ previous = r) (config.over r) w
  | none, w => ch ∈ w.state.badCh ∨
    (∀ config, config? = some config → config.isEmpty) ∧ Holding bus stored boards ch A r w

theorem steady_configured (A : Prop) (r : SetPoints) (config? : Option HV.ChannelConfig)
    (o : Option (SetPoints × SetPoints)) :
    Steady ch (Configured bus stored boards ch A r config? o) := by
  cases o with
  | some values =>
    refine ⟨fun hc h => ?_, fun hx h => ?_⟩ <;> obtain ⟨config, hconfig, happlied, hholding⟩ := h
    · exact ⟨config, hconfig, happlied, (steady_holding ..).issue hc hholding⟩
    · exact ⟨config, hconfig, happlied, (steady_holding ..).moveToBad hx hholding⟩
  | none =>
    refine ⟨fun hc h => ?_, fun hx h => ?_⟩ <;> rcases h with hbad | ⟨hempty, hholding⟩
    · exact .inl hbad
    · exact .inr ⟨hempty, (steady_holding ..).issue hc hholding⟩
    · exact .inl (mem_bad_moveToBad.2 (.inl hbad))
    · exact .inr ⟨hempty, (steady_holding ..).moveToBad hx hholding⟩

variable {bus stored boards ch}

variable {A : Prop}

theorem triple_readSetPoints (r : SetPoints) : Triple bus (Holding bus stored boards ch A r)
    (HV.readSetPoints ch) (fun previous => Holding bus stored boards ch (A ∧ previous = r) r)
    fun _ => True := by
  have hvolt : Triple bus (Holding bus stored boards ch A r) (HVModBus.getVoltageSet ch)
      (fun volt : Nat => Holding bus stored boards ch (A ∧ (volt : Int) = r.voltage) r)
      fun _ => True := by
    refine triple_call (fun w volt hw hanswer => ?_) fun _ _ _ _ => trivial
    have hnext := (steady_holding bus stored boards ch A r).issue
      (c := .getVoltageSet ch) nofun hw
    refine ⟨fun ht => ⟨hnext.truth ht, ?_⟩, hnext.setPoints, hnext.ok⟩
    rw [← hw.setPoints]
    exact ht.last.voltage hanswer
  have hthr (volt : Nat) : Triple bus
      (Holding bus stored boards ch (A ∧ (volt : Int) = r.voltage) r) (HVModBus.getThreshold ch)
      (fun thr : Nat => Holding bus stored boards ch
        ((A ∧ (volt : Int) = r.voltage) ∧ (thr : Int) = r.threshold) r) fun _ => True := by
    refine triple_call (fun w thr hw hanswer => ?_) fun _ _ _ _ => trivial
    have hnext := (steady_holding bus stored boards ch _ r).issue
      (c := .getThreshold ch) nofun hw
    refine ⟨fun ht => ⟨hnext.truth ht, ?_⟩, hnext.setPoints, hnext.ok⟩
    rw [← hw.setPoints]
    exact ht.last.threshold hanswer
  refine triple_bind hvolt fun volt => triple_bind (hthr volt) fun thr =>
    triple_pure fun w hw => ⟨fun ht => ?_, hw.setPoints, hw.ok⟩
  obtain ⟨⟨hA, hv⟩, ht⟩ := hw.truth ht
  obtain ⟨voltage, threshold⟩ := r
  exact ⟨hA, congrArg₂ SetPoints.mk hv ht⟩

theorem triple_setVoltageSet {s : SetPoints} (value : Int) :
    Triple bus (Holding bus stored boards ch A s) (HVModBus.setVoltageSet value ch : HvM Unit)
      (fun _ => Holding bus stored boards ch A { s with voltage := value }) fun _ => True := by
  refine triple_call (fun w a hw hanswer => ⟨fun ht => hw.truth ht.of_append, ?_, hw.ok⟩)
    fun _ _ _ _ => trivial
  have heffect : takesEffect bus stored (.setVoltageSet value ch)
      (w.calls.count (.setVoltageSet value ch)) = true := by
    unfold takesEffect
    rw [hanswer]
    rfl
  rw [World.issue_calls, setPointsAfter_append_single, HvCall.store, if_pos heffect,
    Function.update_self, hw.setPoints]

theorem triple_setThreshold {s : SetPoints} (value : Int) :
    Triple bus (Holding bus stored boards ch A s) (HVModBus.setThreshold value ch : HvM Unit)
      (fun _ => Holding bus stored boards ch A { s with threshold := value }) fun _ => True := by
  refine triple_call (fun w a hw hanswer => ⟨fun ht => hw.truth ht.of_append, ?_, hw.ok⟩)
    fun _ _ _ _ => trivial
  have heffect : takesEffect bus stored (.setThreshold value ch)
      (w.calls.count (.setThreshold value ch)) = true := by
    unfold takesEffect
    rw [hanswer]
    rfl
  rw [World.issue_calls, setPointsAfter_append_single, HvCall.store, if_pos heffect,
    Function.update_self, hw.setPoints]

theorem triple_applyConfig (r : SetPoints) (config : HV.ChannelConfig) :
    Triple bus (Holding bus stored boards ch A r) (HV.applyConfig config ch)
      (fun o w => o.2 = config.over o.1 ∧
        Holding bus stored boards ch (A ∧ o.1 = r) (config.over r) w) fun _ => True := by
  refine triple_bind (triple_readSetPoints r) fun previous => ?_
  have hvolt : Triple bus (Holding bus stored boards ch (A ∧ previous = r) r)
      (HV.writeIf config.voltage.isSome
        (HVModBus.setVoltageSet ((config.voltage.map HV.pyRound).getD previous.voltage) ch))
      (fun _ => Holding bus stored boards ch (A ∧ previous = r)
        { r with voltage := (config.voltage.map HV.pyRound).getD r.voltage }) fun _ => True := by
    cases config.voltage with
    | none => exact triple_pure fun _ hw => hw
    | some value => exact triple_setVoltageSet _
  have hthr : Triple bus (Holding bus stored boards ch (A ∧ previous = r)
        { r with voltage := (config.voltage.map HV.pyRound).getD r.voltage })
      (HV.writeIf config.threshold.isSome
        (HVModBus.setThreshold ((config.threshold.map HV.pyRound).getD previous.threshold) ch))
      (fun _ => Holding bus stored boards ch (A ∧ previous = r) (config.over r)) fun _ => True := by
    unfold HV.ChannelConfig.over
    cases config.threshold with
    | none => exact triple_pure fun _ hw => hw
    | some value => exact triple_setThreshold _
  exact triple_bind hvolt fun _ => triple_bind hthr fun _ => triple_pure fun _ hw => ⟨rfl, hw⟩

/-- The turn of the channel itself. -/
theorem triple_configureChannel (r : SetPoints) (config? : Option HV.ChannelConfig) :
    Triple bus (Holding bus stored boards ch A r) (HV.configureChannel config? ch)
      (Configured bus stored boards ch A r config?) fun _ => False := by
  unfold HV.configureChannel
  split
  · exact triple_pure fun w hw => .inr ⟨nofun, hw⟩
  · next config =>
    split
    · next hempty =>
      refine triple_pure fun w hw => .inr ⟨fun c hc => ?_, hw⟩
      obtain rfl := Option.some.inj hc
      exact hempty
    · refine triple_try (triple_map ((triple_applyConfig r config).imp_result (fun o w hw => ?_)
        fun _ hw => hw)) fun _ => ?_
      · exact ⟨config, rfl, hw⟩
      · exact triple_bind (Q := fun _ w => ch ∈ w.state.badCh)
          (triple_modify fun w _ => mem_bad_moveToBad.2 (.inr rfl)) fun _ =>
            triple_pure fun w hw => .inl hw

/-- What the result says of the channel, beside what became of it. -/
def Reported (bus : HvBus) (stored : HvCall → Nat → Bool) (boards : Int → SetPoints) (ch : Int)
    (A : Prop) (r : SetPoints) (config? : Option HV.ChannelConfig) (result : HvResult)
    (w : World HvLists HvCall) : Prop :=
  ∃ previous applied, result.data = .acquisition previous applied ∧
    ((∃ values config, config? = some config ∧ ch ∈ result.successfulChannels ∧
        previous.get? ch = some values ∧ applied.get? ch = some (config.over values) ∧
        Holding bus stored boards ch (A ∧ values = r) (config.over r) w) ∨
      ch ∉ result.successfulChannels ∧ previous.get? ch = none ∧
        Configured bus stored boards ch A r config? none w)

theorem triple_withLists {P E : World HvLists HvCall → Prop} {p : HvM HvResult}
    {Q : HvResult → World HvLists HvCall → Prop} (hp : Triple bus P p Q E)
    (hQ : ∀ result lists w, Q result w → Q { result with lists := lists } w) :
    Triple bus P (HV.withLists p) Q E :=
  triple_bind hp fun result => triple_bind (Q := fun _ => Q result) (fun _ hw => hw) fun lists =>
    triple_pure fun w hw => hQ result (some lists) w hw

theorem nodup_successes {α : Type} {outcomes : List (Int × Option α)}
    (h : (outcomes.map Prod.fst).Nodup) : ((HV.successes outcomes).map (·.1)).Nodup :=
  (List.nodup_append.1 ((perm_successes_failures outcomes).nodup_iff.1 h)).1

/-- The dictionary of the channels that were set and ended their ramp. -/
theorem get?_kept {α β : Type} {set : List (Int × α)} {failed : List Int} (f : α → β)
    (hnodup : (set.map (·.1)).Nodup) {b : β} :
    (HV.dictOf ((set.filter (·.1 ∉ failed)).map fun e => (e.1, f e.2))).get? ch = some b ↔
      ∃ a, (ch, a) ∈ set ∧ ch ∉ failed ∧ f a = b := by
  have hkeys : (((set.filter (·.1 ∉ failed)).map fun e => (e.1, f e.2)).map Prod.fst).Nodup := by
    rw [List.map_map]
    exact hnodup.sublist ((List.filter_sublist).map _)
  rw [get?_dictOf hkeys]
  simp only [List.mem_map, List.mem_filter, decide_eq_true_eq, Prod.mk.injEq]
  constructor
  · rintro ⟨⟨x, a⟩, ⟨hmem, hfailed⟩, rfl, rfl⟩
    exact ⟨a, hmem, hfailed, rfl⟩
  · rintro ⟨a, hmem, hfailed, rfl⟩
    exact ⟨(ch, a), ⟨hmem, hfailed⟩, rfl, rfl⟩

theorem channelsDefinition_list {chs : List Int} (hvalid : ∀ x ∈ chs, 1 ≤ x ∧ x ≤ 7) :
    HV.channelsDefinition (.list chs) = (pure chs : HvM (List Int)) := by
  have hdefinition : hvChannelsDefinition (.list chs) = .ok chs := definition_of_valid hvalid
  unfold HV.channelsDefinition
  rw [hdefinition]

/-- A requested OK channel. -/
theorem triple_setAcquisitionConfiguration {chs : List Int} (hvalid : ∀ x ∈ chs, 1 ≤ x ∧ x ≤ 7)
    (hnodup : chs.Nodup) (hch : ch ∈ chs) (r : SetPoints) (config : Dict Int HV.ChannelConfig)
    (waitRamp : Bool) : Triple bus (Holding bus stored boards ch A r)
      (HV.setAcquisitionConfiguration (.list chs) config waitRamp)
      (fun result w => result.requestedChannels = chs ∧
        Reported bus stored boards ch A r (config.get? (ch - 1)) result w) fun _ => False := by
  refine triple_withLists ?_ fun _ _ _ h => h
  rw [channelsDefinition_list hvalid]
  intro w hw
  let used := chs.filter (· ∈ w.state.okCh)
  have hused : ch ∈ used := List.mem_filter.2 ⟨hch, by simpa using hw.ok⟩
  have hturn : Triple bus (Holding bus stored boards ch A r)
      (mapEach used fun x => HV.configureChannel (config.get? (x - 1)) x)
      (fun outcomes w => (∃ o, (ch, o) ∈ outcomes ∧
        Configured bus stored boards ch A r (config.get? (ch - 1)) o w) ∧
          outcomes.map Prod.fst = used) fun _ => False :=
    triple_mapEach_turn hused (hnodup.filter _) (triple_configureChannel r (config.get? (ch - 1)))
      fun x _ hx => ⟨(steady_holding ..).configureChannel hx,
        fun o => (steady_configured ..).configureChannel hx⟩
  refine triple_bind hturn (fun outcomes w hw => ?_) w hw
  obtain ⟨⟨o, ho, hconfigured⟩, hkeys⟩ := hw
  refine triple_bind ((steady_configured ..).rampFailures _) (fun failed => triple_pure
    fun w hw => ⟨rfl, _, _, rfl, ?_⟩) w hconfigured
  have hset : ((HV.successes outcomes).map (·.1)).Nodup := nodup_successes (by
    rw [hkeys]
    exact hnodup.filter _)
  by_cases hkept : (∃ values, (ch, values) ∈ HV.successes outcomes) ∧ ch ∉ failed
  · obtain ⟨⟨values, hvalues⟩, hended⟩ := hkept
    have houtcome : o = some values := by
      have hinj := List.inj_on_of_nodup_map (f := Prod.fst) (l := outcomes) (by
        rw [hkeys]
        exact hnodup.filter _)
      exact congrArg Prod.snd (hinj ho (mem_successes.1 hvalues) rfl)
    rw [if_neg hended, houtcome] at hw
    obtain ⟨⟨config', hconfig, happlied, hholding⟩, -⟩ := hw
    refine .inl ⟨values.1, config', hconfig, ?_, (get?_kept Prod.fst hset).2
      ⟨values, hvalues, hended, rfl⟩, (get?_kept Prod.snd hset).2
        ⟨values, hvalues, hended, happlied⟩, hholding⟩
    exact List.mem_map.2 ⟨(ch, values), List.mem_filter.2 ⟨hvalues, by simpa using hended⟩, rfl⟩
  · refine .inr ⟨fun hmem => hkept ?_, Option.eq_none_iff_forall_ne_some.2 fun v hv => hkept ?_, ?_⟩
    · obtain ⟨e, he, rfl⟩ := List.mem_map.1 hmem
      obtain ⟨hmem, hended⟩ := List.mem_filter.1 he
      exact ⟨⟨e.2, hmem⟩, by simpa using hended⟩
    · obtain ⟨values, hmem, hended, -⟩ := (get?_kept Prod.fst hset).1 hv
      exact ⟨⟨values, hmem⟩, hended⟩
    · by_cases hended : ch ∈ failed
      · rw [if_pos hended] at hw
        exact .inl hw.1
      · rw [if_neg hended] at hw
        cases o with
        | none => exact hw.1
        | some values => exact absurd ⟨⟨values, mem_successes.2 ho⟩, hended⟩ hkept

/-- A channel that is not requested, or is not OK, is left alone. -/
theorem skipped_setAcquisitionConfiguration {chs : List Int}
    (hvalid : ∀ x ∈ chs, 1 ≤ x ∧ x ≤ 7) {I : World HvLists HvCall → Prop} (hI : Steady ch I)
    (hch : ∀ w, I w → ch ∈ chs → ch ∉ w.state.okCh) (config : Dict Int HV.ChannelConfig)
    (waitRamp : Bool) : Triple bus I
      (HV.setAcquisitionConfiguration (.list chs) config waitRamp)
      (fun result w => result.requestedChannels = chs ∧ (∃ previous applied,
        result.data = .acquisition previous applied ∧ ch ∉ result.successfulChannels ∧
          previous.get? ch = none) ∧ I w) fun _ => False := by
  refine triple_withLists ?_ fun _ _ _ h => h
  rw [channelsDefinition_list hvalid]
  intro w hw
  let used := chs.filter (· ∈ w.state.okCh)
  have hused : ch ∉ used := fun hmem =>
    hch w hw (List.mem_filter.1 hmem).1 (by simpa using (List.mem_filter.1 hmem).2)
  have hloop : Triple bus I (mapEach used fun x => HV.configureChannel (config.get? (x - 1)) x)
      (fun outcomes w => I w ∧ outcomes.map Prod.fst = used) fun _ => False :=
    triple_mapEach fun x hx => hI.configureChannel fun heq => hused (heq ▸ hx)
  refine triple_bind hloop (fun outcomes w hw => ?_) w hw
  obtain ⟨hIw, hkeys⟩ := hw
  have hnone : ∀ values, (ch, values) ∉ HV.successes outcomes := fun values hmem =>
    hused (hkeys ▸ mem_of_mem_successes hmem)
  refine triple_bind (hI.rampFailures _) (fun failed => triple_pure
    fun w hw => ⟨rfl, ⟨_, _, rfl, fun hmem => ?_, ?_⟩, ?_⟩) w hIw
  · obtain ⟨e, he, rfl⟩ := List.mem_map.1 hmem
    exact hnone e.2 (List.mem_filter.1 he).1
  · refine Option.eq_none_iff_forall_ne_some.2 fun v hv => ?_
    obtain ⟨e, he, heq⟩ := List.mem_map.1 (mem_of_get?_dictOf hv)
    obtain ⟨rfl, -⟩ := Prod.mk.inj heq
    exact hnone e.2 (List.mem_filter.1 he).1
  · have hended : ch ∉ failed := fun hmem => by
      obtain ⟨e, he, heq⟩ := List.mem_map.1 (hw.2 ch hmem)
      exact hnone e.2 (by rw [← heq]; exact (List.mem_filter.1 he).1)
    rw [if_neg hended] at hw
    exact hw.1

end SetPoints

end MultiDAQ.Client
