import MultiDAQ.Client.SafeState
import MultiDAQ.Client.Verify.CommandRules
import MultiDAQ.Lib.Polling
import Mathlib.Data.List.Perm.Subperm

/-!
# Which channels the safe state powers off

`hv_off_and_wait` powers the OK channels off and only those; the others are powered off by the forced
power-off that follows when it has answered OK. When it answers ERROR, because one OK channel did not
go down or because its request was not served in time, there is no forced power-off, and the channels
that are not OK stay as they are. `OffReaches` is the exact condition under which every channel is
powered off (`powers_every_channel_off_iff`).
-/

namespace MultiDAQ.Client

open MultiDAQ.Lib MultiDAQ.Lib.Interaction

/-! ## Powering off a list of channels -/

section PowerOff

variable {bus : HvBus} {w : World HvLists HvCall} {ch : Int}

/-- The answer to the first power-off of a channel. -/
def accepted (bus : HvBus) (ch : Int) : Option Unit := (bus.answer (.powerOff ch) 0).toOption

/-- A loop whose body powers one channel off, and does nothing else on the line. -/
def PowersOff (bus : HvBus) (body : Int → HvM (Option Unit)) : Prop :=
  ∀ ch w, w.calls.count (.powerOff ch) = 0 → ∃ lists,
    body ch bus w = (.ok (accepted bus ch), { state := lists, calls := w.calls ++ [.powerOff ch] })

theorem powerOff_run (h : w.calls.count (.powerOff ch) = 0) :
    HVModBus.powerOff ch bus w = (bus.answer (.powerOff ch) 0, w.issue (.powerOff ch)) := by
  show (bus.answer (.powerOff ch) (w.calls.count (.powerOff ch)), _) = _
  rw [h]

/-- A power-off that is caught, followed by an update of the lists when it was accepted. -/
theorem powersOff_attempt {action : Int → HvM Unit} (after : Int → HvLists → HvLists)
    (hok : ∀ ch w w', HVModBus.powerOff ch bus w = (.ok (), w') →
      action ch bus w = (.ok (), w'.update (after ch)))
    (herr : ∀ ch w w' e, HVModBus.powerOff ch bus w = (.error e, w') →
      action ch bus w = (.error e, w')) :
    PowersOff bus fun ch => attempt (action ch) (HV.moveToBad ch) := by
  intro ch w h
  have hrun : HVModBus.powerOff ch bus w = _ := powerOff_run h
  unfold accepted
  cases ha : bus.answer (.powerOff ch) 0 with
  | ok a =>
    rw [ha] at hrun
    exact ⟨_, tryExcept_of_ok (map_of_ok (hok ch w _ hrun))⟩
  | error e =>
    rw [ha] at hrun
    exact ⟨_, tryExcept_of_error (bind_of_error (herr ch w _ e hrun))⟩

theorem offAndWait_powersOff (bus : HvBus) :
    PowersOff bus fun ch => attempt (HVModBus.powerOff ch) (HV.moveToBad ch) :=
  powersOff_attempt (fun _ s => s) (fun _ _ _ h => h) fun _ _ _ _ h => h

theorem forceOff_powersOff (bus : HvBus) :
    PowersOff bus fun ch => attempt (HV.powerOffChannel ch) (HV.moveToBad ch) :=
  powersOff_attempt (fun ch s => s.moveToOff ch) (fun _ _ _ h => bind_of_ok h)
    fun _ _ _ _ h => bind_of_error h

/-- The loop over channels that have not been powered off powers each of them off, in order. -/
theorem mapEach_powersOff {body : Int → HvM (Option Unit)} (hbody : PowersOff bus body) :
    ∀ (chs : List Int) (w : World HvLists HvCall), chs.Nodup →
      (∀ ch ∈ chs, w.calls.count (.powerOff ch) = 0) → ∃ lists,
        mapEach chs body bus w = (.ok (chs.map fun ch => (ch, accepted bus ch)),
          { state := lists, calls := w.calls ++ chs.map .powerOff })
  | [], w, _, _ => ⟨w.state, by rw [List.map_nil, List.map_nil, List.append_nil]; rfl⟩
  | ch :: chs, w, hnodup, hnone => by
    obtain ⟨hch, hchs⟩ := List.nodup_cons.1 hnodup
    obtain ⟨lists, hfirst⟩ := hbody ch w (hnone ch List.mem_cons_self)
    have hrest : ∀ x ∈ chs, (w.calls ++ [HvCall.powerOff ch]).count (.powerOff x) = 0 := by
      intro x hx
      have hne : HvCall.powerOff ch ≠ .powerOff x := fun heq => hch (HvCall.powerOff.inj heq ▸ hx)
      rw [List.count_append, hnone x (List.mem_cons_of_mem _ hx), List.count_singleton,
        if_neg (by simpa using hne)]
    obtain ⟨lists', hloop⟩ := mapEach_powersOff hbody chs
      { state := lists, calls := w.calls ++ [.powerOff ch] } hchs hrest
    refine ⟨lists', (bind_of_ok hfirst).trans ((bind_of_ok hloop).trans ?_)⟩
    rw [List.map_cons, List.map_cons, List.append_assoc]
    rfl

end PowerOff

/-! ## Waiting for the channels to go down -/

section Wait

variable {bus : HvBus} {chs : List Int}

/-- What the `r`-th look at a channel that should go down makes of it. -/
def downVerdict (bus : HvBus) (ch : Int) (r : Nat) : Option Bool :=
  match bus.answer (.getStatus ch) r with
  | .error _ => some false
  | .ok code =>
    match statusString code with
    | .down => some true
    | .trip => some false
    | _ => none

/-- The channel has been looked at `r` times. -/
def Looked (ch : Int) (r : Nat) (w : World HvLists HvCall) : Prop :=
  w.calls.count (.getStatus ch) = r

theorem Looked.issue {x : Int} {r : Nat} {w : World HvLists HvCall} {c : HvCall}
    (h : Looked x r w) (hc : c ≠ .getStatus x) : Looked x r (w.issue c) := by
  unfold Looked at h ⊢
  rw [World.issue_calls, List.count_append, h, List.count_singleton, if_neg (by simpa using hc),
    Nat.add_zero]

theorem looked_self {ch : Int} {r : Nat} {w : World HvLists HvCall} (h : Looked ch r w) :
    Looked ch (r + 1) (w.issue (.getStatus ch)) := by
  unfold Looked at h ⊢
  rw [World.issue_calls, List.count_append, h, List.count_singleton_self]

theorem answers_shutdown {ch : Int} {I : World HvLists HvCall → Prop}
    (hI : ∀ w c, I w → (c = .reset ch ∨ c = .powerOff ch) → I (w.issue c)) :
    Answers bus I (HV.shutdown ch) :=
  answers_try_recover
    (keeps_bind (keeps_call fun w h => hI w _ h (.inl rfl)) fun _ =>
      keeps_call fun w h => hI w _ h (.inr rfl)) fun _ => answers_pure ()

theorem looked_shutdown (bus : HvBus) (ch : Int) (w : World HvLists HvCall) :
    ∃ w', HV.shutdown ch bus w = (.ok (), w') ∧ ∀ x r, Looked x r w → Looked x r w' := by
  have hkeeps : Answers bus (fun w' => ∀ x r, Looked x r w → Looked x r w') (HV.shutdown ch) :=
    answers_shutdown fun _ c h hc x r hx => (h x r hx).issue (by rcases hc with rfl | rfl <;> nofun)
  obtain ⟨_, w', hrun, hw'⟩ := hkeeps.run fun _ _ h => h
  exact ⟨w', hrun, hw'⟩

theorem pollDown_pollsBy : PollsBy bus HV.pollDown (downVerdict bus) Looked := by
  intro ch r w hr
  have hself := looked_self hr
  have hother : ∀ y k, y ≠ ch → Looked y k w → Looked y k (w.issue (.getStatus ch)) :=
    fun y k hy h => h.issue fun heq => hy (HvCall.getStatus.inj heq).symm
  have hcall : (call (HvCall.getStatus ch) : HvM Nat) bus w =
      (bus.answer (.getStatus ch) r, w.issue (.getStatus ch)) := by
    show (bus.answer (.getStatus ch) (w.calls.count (.getStatus ch)), _) = _
    rw [hr]
  unfold HV.pollDown HVModBus.getStatus downVerdict
  cases ha : bus.answer (.getStatus ch) r with
  | error e =>
    rw [ha] at hcall
    exact ⟨_, tryExcept_of_error (bind_of_error (bind_of_error hcall)), hself, hother⟩
  | ok code =>
    rw [ha] at hcall
    have hstatus := map_of_ok (f := statusString) hcall
    dsimp only
    cases hs : statusString code with
    | down =>
      rw [hs] at hstatus
      exact ⟨_, tryExcept_of_ok (bind_of_ok hstatus), hself, hother⟩
    | trip =>
      rw [hs] at hstatus
      obtain ⟨w', hrun, hw'⟩ := looked_shutdown bus ch (w.issue (.getStatus ch))
      exact ⟨_, tryExcept_of_ok ((bind_of_ok hstatus).trans (bind_of_ok hrun)), hw' _ _ hself,
        fun y k hy h => hw' _ _ (hother y k hy h)⟩
    | _ =>
      rw [hs] at hstatus
      exact ⟨_, tryExcept_of_ok (bind_of_ok hstatus), hself, hother⟩

end Wait

/-! ## `hv_off_and_wait` -/

section OffAndWait

variable {bus : HvBus} {α : Type}

theorem mem_failures_map {chs : List Int} {f : Int → Option α} {ch : Int} :
    ch ∈ HV.failures (chs.map fun ch => (ch, f ch)) ↔ ch ∈ chs ∧ f ch = none := by
  simp [HV.failures]

theorem successes_map {chs : List Int} {f : Int → Option α} :
    (HV.successes (chs.map fun ch => (ch, f ch))).map (·.1) = chs.filter fun ch => (f ch).isSome := by
  induction chs with
  | nil => rfl
  | cons ch chs ih =>
    unfold HV.successes at ih ⊢
    rw [List.map_cons, List.filterMap_cons, List.filter_cons]
    cases f ch with
    | none => exact ih
    | some a => exact congrArg (ch :: ·) ih

theorem sortedSet_eq_nil {l : List Int} : HV.sortedSet l = [] ↔ l = [] := by
  simp only [List.eq_nil_iff_forall_not_mem, HV.sortedSet, mem_sorted, List.mem_dedup]

/-- The channels of the argument "all". -/
def hvChannels : List Int := ChannelsArg.all.chList 7

/-- The channels that `hv_off_and_wait` powers off, and the ones that it skips. -/
def usedChannels (s : HvLists) : List Int := hvChannels.filter (· ∈ s.okCh)

def skippedChannels (s : HvLists) : List Int := hvChannels.filter (· ∉ s.okCh)

theorem nodup_hvChannels : hvChannels.Nodup := by decide

theorem nodup_usedChannels (s : HvLists) : (usedChannels s).Nodup := nodup_hvChannels.filter _

theorem nodup_skippedChannels (s : HvLists) : (skippedChannels s).Nodup :=
  nodup_hvChannels.filter _

/-- The channel accepts its power-off and is seen down within the wait. -/
structure GoesDown (bus : HvBus) (rounds : Nat) (ch : Int) : Prop where
  taken : accepted bus ch = some ()
  down : firstVerdict (downVerdict bus ch) rounds 0 = some true

theorem goesDown_iff {rounds : Nat} {ch : Int} : GoesDown bus rounds ch ↔
    accepted bus ch = some () ∧ firstVerdict (downVerdict bus ch) rounds 0 = some true :=
  ⟨fun h => ⟨h.taken, h.down⟩, fun h => ⟨h.1, h.2⟩⟩

/-- After the power-offs only OK channels are looked at, and powered off again after a trip. -/
def PoweredOff (used : List Int) (w : World HvLists HvCall) : Prop :=
  ∃ rest, w.calls = used.map .powerOff ++ rest ∧ ∀ ch, HvCall.powerOff ch ∈ rest → ch ∈ used

theorem PoweredOff.issue {used : List Int} {w : World HvLists HvCall} {c : HvCall}
    (h : PoweredOff used w) (hc : ∀ ch, c = .powerOff ch → ch ∈ used) :
    PoweredOff used (w.issue c) := by
  obtain ⟨rest, hcalls, hrest⟩ := h
  refine ⟨rest ++ [c], by rw [World.issue_calls, hcalls, List.append_assoc], fun ch hch => ?_⟩
  rcases List.mem_append.1 hch with hch | hch
  · exact hrest ch hch
  · exact hc ch (List.mem_singleton.1 hch).symm

theorem keeps_poweredOff_pollDown {used : List Int} {ch : Int} (hch : ch ∈ used) :
    Keeps bus (PoweredOff used) (HV.pollDown ch) := by
  have hmove : Keeps bus (PoweredOff used) (HV.moveToBad ch) := keeps_modify fun _ h => h
  refine keeps_try (keeps_bind (keeps_map (keeps_call fun w h => h.issue nofun)) fun status => ?_)
    fun _ => keeps_bind hmove fun _ => keeps_pure _
  have hshutdown : Answers bus (PoweredOff used) (HV.shutdown ch) :=
    answers_shutdown fun w c h hc => h.issue fun x hx => by
      rcases hc with rfl | rfl
      · cases hx
      · exact HvCall.powerOff.inj hx ▸ hch
  split
  · exact keeps_bind (keeps_modify fun _ h => h) fun _ => keeps_pure _
  · exact keeps_bind hshutdown.keeps fun _ => keeps_bind hmove fun _ => keeps_pure _
  · exact keeps_pure none

/-- A run of `hv_off_and_wait` over all channels. -/
theorem offAndWait_run (bus : HvBus) (s : HvLists) : ∃ result w,
    HV.offAndWait .all bus { state := s } = (.ok result, w) ∧
    result.skippedChannels = skippedChannels s ∧
    (result.failedChannels = [] ↔
      ∀ ch ∈ usedChannels s, GoesDown bus (bus.rounds (usedChannels s).length) ch) ∧
    PoweredOff (usedChannels s) w := by
  have hnodup := nodup_usedChannels s
  obtain ⟨lists, hloop⟩ := mapEach_powersOff (offAndWait_powersOff bus) (usedChannels s)
    { state := s } hnodup fun _ _ => rfl
  set outcomes := (usedChannels s).map fun ch => (ch, accepted bus ch) with houtcomes
  set pending := ((HV.successes outcomes).map (·.1)).filter (· ∉ HV.failures outcomes) with hdef
  have hpending : ∀ ch, ch ∈ pending ↔ ch ∈ usedChannels s ∧ accepted bus ch = some () := by
    intro ch
    rw [hdef, houtcomes, successes_map, List.mem_filter, List.mem_filter, decide_eq_true_eq,
      mem_failures_map]
    cases accepted bus ch <;> simp
  have hpnodup : pending.Nodup := by
    rw [hdef, houtcomes, successes_map]
    exact (hnodup.filter _).filter _
  set w₁ : World HvLists HvCall := { state := lists, calls := (usedChannels s).map .powerOff }
  have hlooked : ∀ ch ∈ pending, Looked ch 0 w₁ := fun ch _ =>
    List.count_eq_zero.2 (by simp [w₁])
  obtain ⟨settled, left, w₂, hwait, hsettled, hleft⟩ := pollRounds_spec pollDown_pollsBy
    (bus.rounds (usedChannels s).length) 0 pending w₁ hpnodup hlooked
  have hpowered : PoweredOff (usedChannels s) w₂ := by
    have hkeeps : Triple bus (PoweredOff (usedChannels s))
        (pollRounds HV.pollDown (bus.rounds (usedChannels s).length) pending) _ _ :=
      triple_pollRounds (C := (· ∈ usedChannels s)) (fun ch hch => keeps_poweredOff_pollDown hch)
        fun ch hch => ((hpending ch).1 hch).1
    have hend := hkeeps w₁ ⟨[], (List.append_nil _).symm, nofun⟩
    rw [hwait] at hend
    exact hend.1
  have hrounds : (waitRounds : HvM Nat) bus w₁ = (.ok (bus.rounds (usedChannels s).length), w₁) := by
    show (Except.ok (bus.rounds w₁.calls.length), w₁) = _
    rw [List.length_map]
  let w₃ := w₂.update fun s => left.foldl (fun s ch => s.moveToBad ch) s
  let result : HvResult := {
    requestedChannels := hvChannels
    usedChannels := usedChannels s
    skippedChannels := skippedChannels s
    successfulChannels := sorted (HV.settledWith true settled)
    failedChannels :=
      HV.sortedSet (HV.failures outcomes ++ HV.settledWith false settled ++ left)
    lists := some w₃.state }
  have hleftBad : forEach left HV.moveToBad bus w₂ = (.ok (), w₃) :=
    forEach_modify (fun ch (s : HvLists) => s.moveToBad ch) left w₂
  refine ⟨result, w₃, ?_, rfl, ?_, hpowered⟩
  · have hrequested : HV.channelsDefinition .all bus { state := s } =
        (.ok hvChannels, { state := s }) := rfl
    have hokCh : HV.getOkChannels bus { state := s } = (.ok s.okCh, { state := s }) := rfl
    unfold HV.offAndWait HV.withLists
    simp only [bind_bind, bind_of_ok hrequested, bind_of_ok hokCh]
    refine (bind_of_ok hloop).trans ?_
    refine bind_bind.trans ((bind_of_ok hrounds).trans ?_)
    refine bind_bind.trans ((bind_of_ok hwait).trans ?_)
    exact bind_bind.trans (bind_of_ok hleftBad)
  · have hfailed : ∀ ch, ch ∈ HV.failures outcomes ++ HV.settledWith false settled ++ left ↔
        ch ∈ usedChannels s ∧ ¬ GoesDown bus (bus.rounds (usedChannels s).length) ch := by
      intro ch
      rw [List.mem_append, List.mem_append, houtcomes, mem_failures_map, mem_settledWith, hsettled,
        hleft, hpending, goesDown_iff]
      cases accepted bus ch with
      | none => simp
      | some _ => rcases firstVerdict (downVerdict bus ch) _ 0 with _ | _ | _ <;> simp
    show HV.sortedSet _ = [] ↔ _
    rw [sortedSet_eq_nil, List.eq_nil_iff_forall_not_mem]
    exact forall_congr' fun ch => by rw [hfailed, not_and_not_right]

end OffAndWait

/-- A run of `hv_force_off`. -/
theorem forceOff_run {chs : List Int} (bus : HvBus) (s : HvLists) (hnodup : chs.Nodup)
    (hchs : hvChannelsDefinition (.list chs) = .ok chs) : ∃ result w,
    HV.forceOff (.list chs) bus { state := s } = (.ok result, w) ∧
      w.calls = chs.map .powerOff := by
  obtain ⟨lists, hloop⟩ := mapEach_powersOff (forceOff_powersOff bus) chs { state := s }
    hnodup fun _ _ => rfl
  have hrequested : HV.channelsDefinition (.list chs) bus { state := s } =
      (.ok chs, { state := s }) := by
    unfold HV.channelsDefinition
    rw [hchs]
    rfl
  let outcomes := chs.map fun ch => (ch, accepted bus ch)
  refine ⟨{
    requestedChannels := chs
    successfulChannels := (HV.successes outcomes).map (·.1)
    failedChannels := HV.failures outcomes
    lists := some lists }, { state := lists, calls := chs.map .powerOff }, ?_, rfl⟩
  unfold HV.forceOff HV.allChannels HV.withLists
  rw [bind_bind, bind_of_ok hrequested]
  exact bind_bind.trans (bind_of_ok hloop)

/-! ## Requests -/

namespace Delivery

/-- The calls made for a request by the time its answer is awaited no more. -/
def cut : Delivery → List HvCall → List HvCall
  | .expired, _ => []
  | .late issued, calls => calls.take issued
  | .answered, calls => calls

/-- At least the first `n` calls of the request are made in time. -/
def Covers (n : Nat) : Delivery → Prop
  | .expired => n = 0
  | .late issued => n ≤ issued
  | .answered => True

instance (n : Nat) (d : Delivery) : Decidable (d.Covers n) := by
  cases d <;> unfold Covers <;> infer_instance

theorem mem_of_mem_cut {d : Delivery} {calls : List HvCall} {c : HvCall} (h : c ∈ d.cut calls) :
    c ∈ calls := by
  cases d with
  | expired => cases h
  | late issued => exact List.mem_of_mem_take h
  | answered => exact h

/-- Calls that differ and come first are all made exactly if so many are made. -/
theorem cut_covers (d : Delivery) {first : List HvCall} (rest : List HvCall)
    (hnodup : first.Nodup) :
    (∀ c ∈ first, c ∈ d.cut (first ++ rest)) ↔ d.Covers first.length := by
  cases d with
  | expired =>
    show (∀ c ∈ first, c ∈ []) ↔ first.length = 0
    rw [List.length_eq_zero_iff, List.eq_nil_iff_forall_not_mem]
    exact forall₂_congr fun c _ => by simp
  | late issued =>
    show (∀ c ∈ first, c ∈ (first ++ rest).take issued) ↔ first.length ≤ issued
    constructor
    · intro h
      by_contra hlt
      rw [List.take_append_of_le_length (by omega)] at h
      have hle := (List.subperm_of_subset hnodup h).length_le
      rw [List.length_take] at hle
      omega
    · intro hle c hc
      rw [List.take_append]
      exact List.mem_append_left _ (by rwa [List.take_of_length_le hle])
  | answered => exact iff_of_true (fun c hc => List.mem_append_left rest hc) trivial

end Delivery

section Requests

variable (s : HvService) (request : HvRequest) (bus : HvBus) (d : Delivery)

theorem submitCommand_calls :
    (s.submitCommand request bus d).2.2 = d.cut (s.execute request bus).2.2 := by
  cases d <;> rfl

/-- Only a request that was answered can be answered OK. -/
theorem submitCommand_ok : (s.submitCommand request bus d).1.status = .ok ↔
    d = .answered ∧ (s.execute request bus).1.status = .ok := by
  cases d with
  | answered => exact ⟨fun h => ⟨rfl, h⟩, fun h => h.2⟩
  | _ => exact ⟨nofun, fun h => nomatch h.1⟩

variable {s request bus d}

theorem wrapHvAction_ok {result : HvResult} :
    (HvResponse.wrapHvAction result).status = .ok ↔ result.failedChannels = [] := by
  unfold HvResponse.wrapHvAction
  split
  next h => exact iff_of_true rfl h
  next h => exact iff_of_false nofun h

theorem wrapHvAction_result {result : HvResult} :
    (HvResponse.wrapHvAction result).result = result := by
  unfold HvResponse.wrapHvAction
  split <;> rfl

/-- An operation that the policy allows and that answers. -/
theorem execute_of_run {response : HvResponse} {w : World HvLists HvCall}
    (hallowed : s.hvPolicy.allows request = true)
    (h : HV.handle request bus { state := s.hv } = (.ok response, w)) :
    s.execute request bus = (response, { s with hv := w.state }, w.calls) := by
  unfold HvService.execute HvService.executeResponse
  rw [if_pos hallowed, tryExcept_of_ok h]

theorem allows_of_not_needsFullControl {policy : HvPolicy} (h : request.needsFullControl = false) :
    policy.allows request = true := by
  cases policy with
  | fullControl => rfl
  | monitorOnly =>
    show (!request.needsFullControl) = true
    rw [h]
    rfl

/-- The rounds `hv_off_and_wait` waits for its channels. -/
def offRounds (s : HvService) (bus : HvBus) : Nat := bus.rounds (usedChannels s.hv).length

theorem execute_off (s : HvService) (bus : HvBus) : ∃ rest,
    (s.execute (.hvOffAndWait .all) bus).2.2 = (usedChannels s.hv).map .powerOff ++ rest ∧
    (∀ ch, HvCall.powerOff ch ∈ rest → ch ∈ usedChannels s.hv) ∧
    ((s.execute (.hvOffAndWait .all) bus).1.status = .ok ↔
      ∀ ch ∈ usedChannels s.hv, GoesDown bus (offRounds s bus) ch) ∧
    (s.execute (.hvOffAndWait .all) bus).1.result.skippedChannels = skippedChannels s.hv := by
  obtain ⟨result, w, hrun, hskipped, hfailed, rest, hcalls, hrest⟩ := offAndWait_run bus s.hv
  rw [execute_of_run (allows_of_not_needsFullControl rfl) (map_of_ok hrun)]
  refine ⟨rest, hcalls, hrest, wrapHvAction_ok.trans hfailed, ?_⟩
  rw [wrapHvAction_result, hskipped]

theorem execute_forceOff {chs : List Int} (s : HvService) (bus : HvBus) (hnodup : chs.Nodup)
    (hchs : hvChannelsDefinition (.list chs) = .ok chs) :
    (s.execute (.hvForceOff (.list chs)) bus).2.2 = chs.map .powerOff := by
  obtain ⟨result, w, hrun, hcalls⟩ := forceOff_run bus s.hv hnodup hchs
  rw [execute_of_run (allows_of_not_needsFullControl rfl) (map_of_ok hrun)]
  exact hcalls

end Requests

/-! ## The safe state -/

theorem mem_hvChannels {ch : Int} : ch ∈ hvChannels ↔ 1 ≤ ch ∧ ch ≤ 7 := by
  show ch ∈ [1, 2, 3, 4, 5, 6, 7] ↔ _
  simp only [List.mem_cons, List.not_mem_nil, or_false]
  omega

theorem mem_usedChannels {s : HvLists} {ch : Int} :
    ch ∈ usedChannels s ↔ ch ∈ hvChannels ∧ ch ∈ s.okCh := by
  rw [usedChannels, List.mem_filter, decide_eq_true_eq]

theorem mem_skippedChannels {s : HvLists} {ch : Int} :
    ch ∈ skippedChannels s ↔ ch ∈ hvChannels ∧ ch ∉ s.okCh := by
  rw [skippedChannels, List.mem_filter, decide_eq_true_eq]

theorem usedChannels_of_none_skipped {s : HvLists} (h : skippedChannels s = []) :
    usedChannels s = hvChannels := by
  rw [usedChannels, List.filter_eq_self]
  intro ch hch
  rw [decide_eq_true_eq]
  by_contra hok
  exact List.not_mem_nil (h ▸ mem_skippedChannels.2 ⟨hch, hok⟩)

theorem definition_of_hvChannels {chs : List Int} (h : ∀ ch ∈ chs, ch ∈ hvChannels) :
    hvChannelsDefinition (.list chs) = .ok chs :=
  definition_of_valid fun ch hch => mem_hvChannels.1 (h ch hch)

theorem nodup_powerOff {chs : List Int} (h : chs.Nodup) :
    (chs.map HvCall.powerOff).Nodup :=
  h.map fun _ _ heq => HvCall.powerOff.inj heq

/-- Every channel is OK and the calls of `hv_off_and_wait` that power them off are made in time; or
it is answered OK, and the forced power-offs of the other channels are made in time. -/
def OffReaches (env : SafeStateEnv) (s : HvService) : Prop :=
  (skippedChannels s.hv = [] ∧ env.off.Covers hvChannels.length) ∨
  (env.off = .answered ∧
    (∀ ch ∈ usedChannels s.hv, GoesDown env.offBus (offRounds s env.offBus) ch) ∧
    env.forceOff.Covers (skippedChannels s.hv).length)

section SafeState

variable (env : SafeStateEnv) (s : HvService)

theorem powerOff_mem_off {s : HvLists} {rest : List HvCall}
    (hrest : ∀ ch, HvCall.powerOff ch ∈ rest → ch ∈ usedChannels s) {ch : Int}
    (h : HvCall.powerOff ch ∈ (usedChannels s).map .powerOff ++ rest) : ch ∈ usedChannels s := by
  rcases List.mem_append.1 h with h | h
  · obtain ⟨x, hx, heq⟩ := List.mem_map.1 h
    exact HvCall.powerOff.inj heq ▸ hx
  · exact hrest ch h

/-- The calls of `hv_off_and_wait` alone power every channel off only if all channels are OK. -/
theorem off_reaches_iff {s : HvLists} {d : Delivery} {rest : List HvCall}
    (hrest : ∀ ch, HvCall.powerOff ch ∈ rest → ch ∈ usedChannels s) :
    (∀ ch ∈ hvChannels, HvCall.powerOff ch ∈ d.cut ((usedChannels s).map .powerOff ++ rest)) ↔
      skippedChannels s = [] ∧ d.Covers hvChannels.length := by
  have hcovers := d.cut_covers rest (nodup_powerOff (nodup_usedChannels s))
  constructor
  · intro h
    have hnone : skippedChannels s = [] := by
      rw [List.eq_nil_iff_forall_not_mem]
      intro ch hch
      obtain ⟨hch, hnot⟩ := mem_skippedChannels.1 hch
      have hmem := powerOff_mem_off hrest (Delivery.mem_of_mem_cut (h ch hch))
      exact hnot (mem_usedChannels.1 hmem).2
    refine ⟨hnone, ?_⟩
    rw [usedChannels_of_none_skipped hnone] at h hcovers
    rw [← List.length_map HvCall.powerOff, ← hcovers]
    intro c hc
    obtain ⟨ch, hch, rfl⟩ := List.mem_map.1 hc
    exact h ch hch
  · rintro ⟨hnone, hd⟩ ch hch
    rw [usedChannels_of_none_skipped hnone] at hcovers ⊢
    rw [← List.length_map HvCall.powerOff, ← hcovers] at hd
    exact hd _ (List.mem_map_of_mem hch)

theorem forceSkippedOff_calls (t : HvService) :
    (SafeState.forceSkippedOff env t (skippedChannels s.hv)).2.2 =
      env.forceOff.cut ((skippedChannels s.hv).map .powerOff) := by
  have hdef := definition_of_hvChannels fun ch hch => (mem_skippedChannels (s := s.hv).1 hch).1
  show (HvService.submitCommand _ _ _ _).2.2 = _
  rw [submitCommand_calls, execute_forceOff _ _ (nodup_skippedChannels s.hv) hdef]

/-- The HV part powers every channel off exactly if `OffReaches`. -/
theorem switchHvOff_reaches_iff :
    (∀ ch ∈ hvChannels, HvCall.powerOff ch ∈ (SafeState.switchHvOff env s).2.2) ↔
      OffReaches env s := by
  obtain ⟨rest, hcalls, hrest, hok, hskipped⟩ := execute_off s env.offBus
  have hmade := submitCommand_calls s (.hvOffAndWait .all) env.offBus env.off
  have hstatus := submitCommand_ok s (.hvOffAndWait .all) env.offBus env.off
  rw [hcalls] at hmade
  rw [hok] at hstatus
  by_cases hreply : (s.submitCommand (.hvOffAndWait .all) env.offBus env.off).1.status = .ok
  · obtain ⟨hanswered, hdown⟩ := hstatus.1 hreply
    have hresult : (s.submitCommand (.hvOffAndWait .all) env.offBus env.off).1.result.skippedChannels
        = skippedChannels s.hv := by
      rw [hanswered]
      exact hskipped
    have hcovers : env.off.Covers hvChannels.length := by
      rw [hanswered]
      trivial
    by_cases hnone : skippedChannels s.hv = []
    · have hoff : (SafeState.switchHvOff env s).2.2 =
          (s.submitCommand (.hvOffAndWait .all) env.offBus env.off).2.2 := by
        unfold SafeState.switchHvOff
        dsimp only
        rw [if_neg (not_not_intro hreply), if_pos (hresult.trans hnone)]
      rw [hoff, hmade, off_reaches_iff hrest]
      exact iff_of_true ⟨hnone, hcovers⟩ (.inl ⟨hnone, hcovers⟩)
    · have hoff : (SafeState.switchHvOff env s).2.2 =
          (s.submitCommand (.hvOffAndWait .all) env.offBus env.off).2.2 ++
            env.forceOff.cut ((skippedChannels s.hv).map .powerOff) := by
        unfold SafeState.switchHvOff
        dsimp only
        rw [if_neg (not_not_intro hreply), if_neg (fun h => hnone (hresult.symm.trans h)), hresult,
          forceSkippedOff_calls]
      rw [hoff, hmade, hanswered]
      have hforced := env.forceOff.cut_covers [] (nodup_powerOff (nodup_skippedChannels s.hv))
      rw [List.append_nil, List.length_map] at hforced
      rw [OffReaches, or_iff_right (fun h => hnone h.1), ← hforced]
      constructor
      · intro h
        refine ⟨hanswered, hdown, fun c hc => ?_⟩
        obtain ⟨ch, hch, rfl⟩ := List.mem_map.1 hc
        obtain ⟨hch, hnot⟩ := mem_skippedChannels.1 hch
        refine (List.mem_append.1 (h ch hch)).resolve_left fun hmem => ?_
        exact hnot (mem_usedChannels.1 (powerOff_mem_off hrest hmem)).2
      · rintro ⟨-, -, h⟩ ch hch
        by_cases hchOk : ch ∈ s.hv.okCh
        · exact List.mem_append_left _ (List.mem_append_left _
            (List.mem_map_of_mem (mem_usedChannels.2 ⟨hch, hchOk⟩)))
        · exact List.mem_append_right _
            (h _ (List.mem_map_of_mem (mem_skippedChannels.2 ⟨hch, hchOk⟩)))
  · -- an ERROR reply: no forced power-off
    have hoff : (SafeState.switchHvOff env s).2.2 =
        (s.submitCommand (.hvOffAndWait .all) env.offBus env.off).2.2 := by
      unfold SafeState.switchHvOff
      dsimp only
      rw [if_pos hreply]
    rw [hoff, hmade, off_reaches_iff hrest]
    refine (or_iff_left ?_).symm
    rintro ⟨hanswered, hdown, -⟩
    exact hreply (hstatus.2 ⟨hanswered, hdown⟩)

/-- The reply to `hv_off_and_wait`. -/
def offReply : HvResponse := (s.submitCommand (.hvOffAndWait .all) env.offBus env.off).1

/-- The reply to the forced power-off of the skipped channels. -/
def forceOffReply : HvResponse :=
  let s' := (s.submitCommand (.hvOffAndWait .all) env.offBus env.off).2.1
  ({ s' with hv := env.meanwhile s'.hv }.submitCommand
    (.hvForceOff (.list (offReply env s).result.skippedChannels)) env.forceOffBus env.forceOff).1

/-- Every step of the safe state reported success. -/
structure EveryStepReported (rcService : Bool) : Prop where
  recoveryStopped : env.acqCheckStops = true
  rcService : rcService = true
  firstRegisters : ∀ address ∈ SafeState.firstRegisters,
    env.rc .first (.writeRegister address 0) = .ok
  producer : env.producerStop = some true
  link : ∀ c ∈ [RcCommand.writeRegister 19 0, .acqStart], env.rc .link c = .ok
  off : (offReply env s).status = .ok
  forcedOff : (offReply env s).result.skippedChannels ≠ [] →
    (forceOffReply env s).status = .ok ∧ (forceOffReply env s).result.failedChannels = []
  lastRegisters : ∀ address ∈ SafeState.lastRegisters,
    env.rc .last (.writeRegister address 0) = .ok

theorem switchHvOff_success (h : (SafeState.switchHvOff env s).1 = true) :
    (offReply env s).status = .ok ∧ ((offReply env s).result.skippedChannels ≠ [] →
      (forceOffReply env s).status = .ok ∧ (forceOffReply env s).result.failedChannels = []) := by
  unfold SafeState.switchHvOff at h
  dsimp only at h
  split at h
  · cases h
  next hreply =>
    refine ⟨not_not.1 hreply, fun hskipped => ?_⟩
    split at h
    next hnone => exact absurd hnone hskipped
    next =>
      have h : (decide ((forceOffReply env s).status = .ok) &&
          decide ((forceOffReply env s).result.failedChannels = [])) = true := h
      rwa [Bool.and_eq_true, decide_eq_true_eq, decide_eq_true_eq] at h

end SafeState

/-- The runtime of a client that is not entering the safe state yet. -/
def runtime (s : HvService) (rcService : Bool) (acqMode : Option AcqMode) : ClientRuntime where
  hvService := some s
  rcService := rcService
  acqMode := acqMode

theorem enterSafeState_success {env : SafeStateEnv} {s : HvService} {rcService : Bool}
    {acqMode : Option AcqMode} (h : (enterSafeState env (runtime s rcService acqMode)).1 = true) :
    EveryStepReported env s rcService := by
  have h : (env.acqCheckStops && (rcService && SafeState.zeroRcRegisters env .first
      SafeState.firstRegisters) && decide (env.producerStop = some true) &&
      SafeState.openHvLink env (runtime s rcService acqMode) && (SafeState.switchHvOff env s).1 &&
      (!rcService || SafeState.zeroRcRegisters env .last SafeState.lastRegisters)) = true := h
  simp only [Bool.and_eq_true, decide_eq_true_eq] at h
  obtain ⟨⟨⟨⟨⟨hcheck, hrc, hfirst⟩, hproducer⟩, hlink⟩, hoff⟩, hlast⟩ := h
  obtain ⟨hreply, hforced⟩ := switchHvOff_success env s hoff
  rw [hrc, Bool.not_true, Bool.false_or] at hlast
  unfold SafeState.openHvLink at hlink
  rw [Bool.and_eq_true] at hlink
  exact {
    recoveryStopped := hcheck
    rcService := hrc
    firstRegisters := by simpa [SafeState.zeroRcRegisters] using hfirst
    producer := hproducer
    link := by simpa using hlink.2
    off := hreply
    forcedOff := hforced
    lastRegisters := by simpa [SafeState.zeroRcRegisters] using hlast }

/-- The safe state powers every channel off, and returns `True` only if every step reported success,
exactly if `OffReaches`. -/
theorem powers_every_channel_off_iff (env : SafeStateEnv) (s : HvService) (rcService : Bool)
    (acqMode : Option AcqMode) :
    ((∀ ch, 1 ≤ ch → ch ≤ 7 →
        HvCall.powerOff ch ∈ (enterSafeState env (runtime s rcService acqMode)).2.2) ∧
      ((enterSafeState env (runtime s rcService acqMode)).1 = true →
        EveryStepReported env s rcService)) ↔ OffReaches env s := by
  rw [← switchHvOff_reaches_iff env s]
  constructor
  · rintro ⟨hoff, -⟩ ch hch
    obtain ⟨h1, h7⟩ := mem_hvChannels.1 hch
    exact hoff ch h1 h7
  · intro h
    exact ⟨fun ch h1 h7 => h ch (mem_hvChannels.2 ⟨h1, h7⟩), enterSafeState_success⟩

/-- Boards that answer, with all channels down, except that the status of channel 1 cannot be
read. -/
def unreadableBus : HvBus where
  answer
    | .getStatus 1, _ => .error "Modbus client is not connected"
    | .getStatus _, _ => .ok (1 : Nat)
    | .getAlarm _, _ | .getTemperature _, _ | .getVoltageSet _, _ | .getThreshold _, _ =>
      .ok (0 : Nat)
    | .getVoltage _, _ | .getCurrent _, _ => .ok (0 : Int)
    | .getInfo _, _ => .ok "PMT1"
    | .resetConnection, _ | .readAddress _, _ | .setVoltageSet _ _, _ | .setThreshold _ _, _
    | .setModbusAddress _ _, _ | .setPMTSerialNumber _ _, _ | .powerOn _, _ | .powerOff _, _
    | .reset _, _ => .ok ()
  rounds _ := 3

/-- Everything works except for that status, and both requests are answered. -/
def unreadableEnv : SafeStateEnv where
  acqCheckStops := true
  rc _ _ := .ok
  producerStop := some true
  off := .answered
  offBus := unreadableBus
  meanwhile := id
  forceOff := .answered
  forceOffBus := unreadableBus

/-- Channel 3 is fixed bad and stays as it is: `hv_off_and_wait` answers ERROR because of channel 1. -/
theorem fixedBad_left_as_it_is :
    HvCall.powerOff 3 ∉ (enterSafeState unreadableEnv (runtime
      { hv := { okCh := [1, 2, 4, 5, 6, 7], onCh := [1, 2, 4, 5, 6, 7], fixedBad := [3] } }
      true (some .multipmt))).2.2 := by
  decide +kernel

end MultiDAQ.Client
