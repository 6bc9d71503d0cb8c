import MultiDAQ.Client.Verify.Moves
import MultiDAQ.Client.Verify.PowerWait

/-!
# The safety check

`command_check_channel_safety` reads the status of the OK channels of its list, then the alarm of the
ones that are still OK, and puts every channel that could not be read, is tripped or has an alarm into
the bad list, after a reset and a power-off if it was read. `ChannelView` is what matters about one
channel; both passes and the treatment of the unsafe channels change the view of each channel by
itself, so the view after the check is computed channel by channel.

A list that names a channel that does not exist is refused before anything is read, and of a channel
that is listed twice only the last reading counts: `checkChannelSafety_verdict` is about the other
lists.
-/

namespace MultiDAQ.Client

open MultiDAQ.Lib MultiDAQ.Lib.Interaction

/-! ## The view of a channel -/

/-- How often the lists have a channel, and how often each call has been made for it. -/
@[ext]
structure ChannelView where
  on : Nat
  ok : Nat
  bad : Nat
  asked : HvCall → Nat

namespace ChannelView

def of (w : World HvLists HvCall) (ch : Int) : ChannelView where
  on := w.state.onCh.count ch
  ok := w.state.okCh.count ch
  bad := w.state.badCh.count ch
  asked c := if c.slave? = some ch then w.calls.count c else 0

def ask (v : ChannelView) (c : HvCall) : ChannelView :=
  { v with asked := fun c' => if c' = c then v.asked c' + 1 else v.asked c' }

def toBad (v : ChannelView) : ChannelView :=
  { v with on := v.on - 1, ok := v.ok - 1, bad := max v.bad 1 }

def toOff (v : ChannelView) : ChannelView := { v with on := v.on - 1 }

variable {w : World HvLists HvCall} {v : ChannelView} {ch x : Int} {c c' : HvCall}

@[simp] theorem ask_on : (v.ask c).on = v.on := rfl

@[simp] theorem ask_ok : (v.ask c).ok = v.ok := rfl

@[simp] theorem ask_bad : (v.ask c).bad = v.bad := rfl

@[simp] theorem toBad_on : v.toBad.on = v.on - 1 := rfl

@[simp] theorem toBad_ok : v.toBad.ok = v.ok - 1 := rfl

@[simp] theorem toBad_bad : v.toBad.bad = max v.bad 1 := rfl

@[simp] theorem toBad_asked : v.toBad.asked = v.asked := rfl

@[simp] theorem toOff_on : v.toOff.on = v.on - 1 := rfl

@[simp] theorem toOff_asked : v.toOff.asked = v.asked := rfl

@[simp] theorem ask_self : (v.ask c).asked c = v.asked c + 1 := if_pos rfl

theorem le_ask : v.asked c' ≤ (v.ask c).asked c' := by
  unfold ask
  dsimp only
  split
  · exact Nat.le_succ _
  · exact Nat.le_refl _

theorem ask_other (h : c' ≠ c) : (v.ask c).asked c' = v.asked c' := if_neg h

theorem asked_of (hc : c.slave? = some ch) : (of w ch).asked c = w.calls.count c := if_pos hc

theorem of_issue_self (hc : c.slave? = some ch) : of (w.issue c) ch = (of w ch).ask c := by
  ext c'
  · rfl
  · rfl
  · rfl
  · simp only [of, ask, World.issue_calls, List.count_append, List.count_singleton, beq_iff_eq]
    by_cases heq : c = c'
    · simp [← heq, hc]
    · simp [heq, Ne.symm heq]

theorem of_issue_other (hc : c.slave? = some x) (hx : ch ≠ x) : of (w.issue c) ch = of w ch := by
  ext c'
  · rfl
  · rfl
  · rfl
  · simp only [of, World.issue_calls, List.count_append, List.count_singleton, beq_iff_eq]
    split
    next hc' =>
      have hne : c ≠ c' := fun heq => hx (Option.some.inj (hc'.symm.trans (heq ▸ hc)))
      rw [if_neg hne, Nat.add_zero]
    next => rfl

theorem of_moveToBad_self : of (w.update (·.moveToBad ch)) ch = (of w ch).toBad := by
  ext <;> simp [of, toBad, HvLists.moveToBad, List.count_erase_self, count_appendNew_self]

theorem of_moveToBad_other (hx : ch ≠ x) : of (w.update (·.moveToBad x)) ch = of w ch := by
  ext <;> simp [of, HvLists.moveToBad, List.count_erase_of_ne hx, count_appendNew_of_ne _ _ _ hx]

theorem of_moveToOff_self : of (w.update (·.moveToOff ch)) ch = (of w ch).toOff := by
  ext <;> simp [of, toOff, HvLists.moveToOff, List.count_erase_self]

theorem of_moveToOff_other (hx : ch ≠ x) : of (w.update (·.moveToOff x)) ch = of w ch := by
  ext <;> simp [of, HvLists.moveToOff, List.count_erase_of_ne hx]

end ChannelView

namespace SafetyCheck

variable {bus : HvBus} {w : World HvLists HvCall} {ch x : Int} {v : ChannelView} {α : Type}

/-! ## What is done to one channel -/

/-- The answer to a call for a channel whose view is `v`. -/
def got (bus : HvBus) (v : ChannelView) (c : HvCall) : Option c.Value :=
  (bus.answer c (v.asked c)).toOption

theorem answer_of_got {c : HvCall} {a : c.Value} (h : got bus v c = some a) :
    bus.answer c (v.asked c) = .ok a := by
  unfold got at h
  cases ha : bus.answer c (v.asked c) with
  | ok b =>
    rw [ha] at h
    exact congrArg Except.ok (Option.some.inj h)
  | error e =>
    rw [ha] at h
    cases h

theorem error_of_got {c : HvCall} (h : got bus v c = none) :
    ∃ e, bus.answer c (v.asked c) = .error e := by
  unfold got at h
  cases ha : bus.answer c (v.asked c) with
  | ok b =>
    rw [ha] at h
    cases h
  | error e => exact ⟨e, rfl⟩

/-- The view after a call that puts the channel into the bad list if it raises. -/
def afterCall (bus : HvBus) (v : ChannelView) (c : HvCall) : ChannelView :=
  if (got bus v c).isSome then v.ask c else (v.ask c).toBad

/-- A call and what follows it if it was answered. -/
theorem acts_attempt (c : HvCall) (after : HvLists → HvLists) (decode : c.Value → α)
    {action : HvM α} {v' : ChannelView} (hc : c.slave? = some ch)
    (hok : ∀ a w w', (call c : HvM c.Value) bus w = (.ok a, w') →
      action bus w = (.ok (decode a), w'.update after))
    (herr : ∀ e w w', (call c : HvM c.Value) bus w = (.error e, w') → action bus w = (.error e, w'))
    (hself : ∀ w, ChannelView.of w ch = v.ask c → ChannelView.of (w.update after) ch = v')
    (hother : ∀ w y, y ≠ ch → ChannelView.of (w.update after) y = ChannelView.of w y) :
    Acts bus ChannelView.of ch v (if (got bus v c).isSome then v' else (v.ask c).toBad)
      ((got bus v c).map decode) (attempt action (HV.moveToBad ch)) := by
  intro w hv
  have hcall : (call c : HvM c.Value) bus w = (bus.answer c (v.asked c), w.issue c) := by
    show (bus.answer c (w.calls.count c), _) = _
    rw [← hv, ChannelView.asked_of hc]
  have hissue : ChannelView.of (w.issue c) ch = v.ask c := by
    rw [ChannelView.of_issue_self hc, hv]
  have hissueOther : ∀ y, y ≠ ch → ChannelView.of (w.issue c) y = ChannelView.of w y :=
    fun y hy => ChannelView.of_issue_other hc hy
  cases ha : bus.answer c (v.asked c) with
  | ok a =>
    rw [ha] at hcall
    have hgot : got bus v c = some a := by
      unfold got
      rw [ha]
      rfl
    rw [hgot]
    exact ⟨_, tryExcept_of_ok (map_of_ok (hok a w _ hcall)), hself (w.issue c) hissue,
      fun y hy => (hother (w.issue c) y hy).trans (hissueOther y hy)⟩
  | error e =>
    rw [ha] at hcall
    have hgot : got bus v c = none := by
      unfold got
      rw [ha]
      rfl
    rw [hgot]
    refine ⟨(w.issue c).update (·.moveToBad ch), ?_, ?_, fun y hy => ?_⟩
    · exact tryExcept_of_error (bind_of_error (herr e w _ hcall))
    · rw [ChannelView.of_moveToBad_self, hissue]
      rfl
    · exact (ChannelView.of_moveToBad_other hy).trans (hissueOther y hy)

/-- One reading of a pass over the channels. -/
theorem acts_read (c : HvCall) (decode : c.Value → α) (hc : c.slave? = some ch) :
    Acts bus ChannelView.of ch v (afterCall bus v c) ((got bus v c).map decode)
      (attempt (decode <$> call c) (HV.moveToBad ch)) :=
  acts_attempt c (fun s => s) decode hc (fun _ _ _ h => map_of_ok h)
    (fun _ _ _ h => bind_of_error h) (fun _ h => h) fun _ _ _ => rfl

/-- The view after a power-off that is recorded. -/
def afterPowerOff (bus : HvBus) (v : ChannelView) (ch : Int) : ChannelView :=
  if (got bus v (.powerOff ch)).isSome then (v.ask (.powerOff ch)).toOff
  else (v.ask (.powerOff ch)).toBad

theorem acts_powerOff : Acts bus ChannelView.of ch v (afterPowerOff bus v ch)
    ((got bus v (.powerOff ch)).map fun a => a)
    (attempt (HV.powerOffChannel ch) (HV.moveToBad ch)) :=
  acts_attempt (.powerOff ch) (·.moveToOff ch) (fun a => a) rfl (fun _ _ _ h => bind_of_ok h)
    (fun _ _ _ h => bind_of_error h) (fun w h => by rw [ChannelView.of_moveToOff_self, h])
    fun _ _ hy => ChannelView.of_moveToOff_other hy

theorem acts_reset : Acts bus ChannelView.of ch v (afterCall bus v (.reset ch))
    ((got bus v (.reset ch)).map fun a => a)
    (attempt (HVModBus.reset ch) (HV.moveToBad ch)) :=
  acts_attempt (.reset ch) (fun s => s) (fun a => a) rfl (fun _ _ _ h => h)
    (fun _ _ _ h => h) (fun _ h => h) fun _ _ _ => rfl

/-- One channel is all that a forced operation is asked for. -/
theorem acts_allChannels_one {action : Int → HvM Unit} {v' : ChannelView} {o : Option Unit}
    (hch : 1 ≤ ch ∧ ch ≤ 7)
    (h : Acts bus ChannelView.of ch v v' o (attempt (action ch) (HV.moveToBad ch))) :
    ∀ w, ChannelView.of w ch = v → ∃ result w', HV.allChannels (.one ch) action bus w =
      (.ok result, w') ∧ ChannelView.of w' ch = v' ∧
      ∀ y, y ≠ ch → ChannelView.of w' y = ChannelView.of w y := by
  intro w hv
  obtain ⟨w', hrun, hself, hother⟩ := h w hv
  have hdef : HV.channelsDefinition (.one ch) bus w = (.ok [ch], w) := by
    have hvalid : hvChannelsDefinition (.one ch) = .ok [ch] :=
      definition_of_valid fun x hx => List.mem_singleton.1 hx ▸ hch
    unfold HV.channelsDefinition
    rw [hvalid]
    rfl
  have hloop : mapEach [ch] (fun ch => attempt (action ch) (HV.moveToBad ch)) bus w =
      (.ok [(ch, o)], w') := (bind_of_ok hrun).trans rfl
  refine ⟨{
    requestedChannels := [ch]
    successfulChannels := (HV.successes [(ch, o)]).map (·.1)
    failedChannels := HV.failures [(ch, o)]
    lists := some w'.state }, w', ?_, hself, hother⟩
  unfold HV.allChannels HV.withLists
  rw [bind_bind, bind_of_ok hdef, bind_bind, bind_of_ok hloop]
  rfl

/-- The view of a channel that has been reset, switched off and put into the bad list. -/
def afterSecure (bus : HvBus) (v : ChannelView) (ch : Int) : ChannelView :=
  (afterPowerOff bus (afterCall bus v (.reset ch)) ch).toBad

theorem acts_secure (hch : 1 ≤ ch ∧ ch ≤ 7) :
    Acts bus ChannelView.of ch v (afterSecure bus v ch) () (HV.secure ch) := by
  intro w hv
  obtain ⟨_, w₁, hrun₁, hself₁, hother₁⟩ := acts_allChannels_one hch acts_reset w hv
  obtain ⟨_, w₂, hrun₂, hself₂, hother₂⟩ := acts_allChannels_one hch acts_powerOff w₁ hself₁
  refine ⟨w₂.update (·.moveToBad ch), ?_, ?_, fun y hy => ?_⟩
  · exact bind_of_ok (tryExcept_of_ok ((bind_of_ok hrun₁).trans ((bind_of_ok hrun₂).trans rfl)))
  · rw [ChannelView.of_moveToBad_self, hself₂]
    rfl
  · rw [ChannelView.of_moveToBad_other hy, hother₂ y hy, hother₁ y hy]

/-- The view of an unsafe channel after it has been dealt with. -/
def afterUnsafe (bus : HvBus) (readFailed : Bool) (v : ChannelView) (ch : Int) : ChannelView :=
  if readFailed then v.toBad else afterSecure bus v ch

theorem acts_handleUnsafe (c : CheckedChannel) (hch : 1 ≤ c.channel ∧ c.channel ≤ 7) :
    Acts bus ChannelView.of c.channel v (afterUnsafe bus c.readFailed v c.channel) ()
      (HV.handleUnsafe c) := by
  unfold HV.handleUnsafe afterUnsafe
  split
  · exact fun w hv => ⟨w.update (·.moveToBad c.channel), rfl, by
      rw [ChannelView.of_moveToBad_self, hv], fun y hy => ChannelView.of_moveToBad_other hy⟩
  · exact acts_secure hch

/-! ## A pass over the channels -/

/-- What a pass of the calls `c` returns and does. -/
theorem okChannels_run {chs : List Int} (hchs : hvChannelsDefinition (.list chs) = .ok chs)
    (hnodup : chs.Nodup) (c : Int → HvCall) (hc : ∀ ch, (c ch).slave? = some ch)
    (decode : (ch : Int) → (c ch).Value → α) (data : List (Int × α) → HvData)
    (w : World HvLists HvCall) : ∃ result w',
      HV.okChannels (.list chs) (fun ch => decode ch <$> call (c ch)) HV.moveToBad data bus w =
        (.ok result, w') ∧
      (∀ ch, ch ∈ result.failedChannels ↔ ch ∈ chs ∧ 0 < (ChannelView.of w ch).ok ∧
        got bus (ChannelView.of w ch) (c ch) = none) ∧
      (∃ entries : List (Int × α), result.data = data entries ∧
        (entries.map Prod.fst).Nodup ∧ ∀ ch a, (ch, a) ∈ entries ↔ ch ∈ chs ∧
          0 < (ChannelView.of w ch).ok ∧
          (got bus (ChannelView.of w ch) (c ch)).map (decode ch) = some a) ∧
      ∀ ch, ChannelView.of w' ch = if ch ∈ chs ∧ 0 < (ChannelView.of w ch).ok
        then afterCall bus (ChannelView.of w ch) (c ch) else ChannelView.of w ch := by
  set used := chs.filter (· ∈ w.state.okCh) with hused
  have hmem : ∀ ch, ch ∈ used ↔ ch ∈ chs ∧ 0 < (ChannelView.of w ch).ok := fun ch => by
    rw [hused, List.mem_filter, decide_eq_true_eq]
    exact and_congr_right fun _ => List.count_pos_iff.symm
  let out := fun ch => (got bus (ChannelView.of w ch) (c ch)).map (decode ch)
  obtain ⟨w', hrun, hview⟩ := mapEach_acts
    (fun ch => afterCall bus (ChannelView.of w ch) (c ch)) out used w (hnodup.filter _)
    fun ch _ => acts_read (c ch) (decode ch) (hc ch)
  set outcomes := used.map fun ch => (ch, out ch) with houtcomes
  have hkeys : outcomes.map Prod.fst = used := by
    rw [houtcomes, List.map_map]
    exact List.map_id used
  have hin : ∀ ch o, (ch, o) ∈ outcomes ↔ ch ∈ used ∧ out ch = o := fun ch o => by
    rw [houtcomes, List.mem_map]
    constructor
    · rintro ⟨_, h, heq⟩
      cases heq
      exact ⟨h, rfl⟩
    · exact fun h => ⟨ch, h.1, Prod.ext rfl h.2⟩
  have hdef : HV.channelsDefinition (.list chs) bus w = (.ok chs, w) := by
    unfold HV.channelsDefinition
    rw [hchs]
    rfl
  have hokCh : HV.getOkChannels bus w = (.ok w.state.okCh, w) := rfl
  refine ⟨{
    requestedChannels := chs
    usedChannels := used
    skippedChannels := chs.filter (· ∉ w.state.okCh)
    successfulChannels := (HV.successes outcomes).map (·.1)
    failedChannels := HV.failures outcomes
    data := data (HV.successes outcomes) }, w', ?_, fun ch => ?_,
    ⟨HV.successes outcomes, rfl, ?_, fun ch a => ?_⟩, fun ch => ?_⟩
  · unfold HV.okChannels
    rw [bind_of_ok hdef, bind_of_ok hokCh]
    exact bind_of_ok hrun
  · rw [mem_failures, hin, hmem, and_assoc]
    simp only [out, Option.map_eq_none_iff]
  · have hperm := perm_successes_failures outcomes
    rw [hkeys] at hperm
    exact (List.nodup_append'.1 (hperm.nodup_iff.1 (hnodup.filter _))).1
  · rw [mem_successes, hin, hmem, and_assoc]
  · rw [hview]
    simp only [hmem]

/-! ## The check of one channel -/

section Views

variable {c : HvCall}

theorem asked_afterCall : (afterCall bus v c).asked = (v.ask c).asked := by
  unfold afterCall
  split <;> rfl

theorem asked_afterSecure_other (hreset : c ≠ .reset ch) (hoff : c ≠ .powerOff ch) :
    (afterSecure bus v ch).asked c = v.asked c := by
  unfold afterSecure afterPowerOff
  split <;>
    simp only [ChannelView.toBad_asked, ChannelView.toOff_asked, ChannelView.ask_other hoff,
      asked_afterCall, ChannelView.ask_other hreset]

theorem reset_afterSecure : (afterSecure bus v ch).asked (.reset ch) = v.asked (.reset ch) + 1 := by
  have hne : HvCall.reset ch ≠ .powerOff ch := nofun
  unfold afterSecure afterPowerOff
  split <;>
    simp only [ChannelView.toBad_asked, ChannelView.toOff_asked, ChannelView.ask_other hne,
      asked_afterCall, ChannelView.ask_self]

theorem powerOff_afterSecure :
    (afterSecure bus v ch).asked (.powerOff ch) = v.asked (.powerOff ch) + 1 := by
  have hne : HvCall.powerOff ch ≠ .reset ch := nofun
  unfold afterSecure afterPowerOff
  split <;>
    simp only [ChannelView.toBad_asked, ChannelView.toOff_asked, ChannelView.ask_self,
      asked_afterCall, ChannelView.ask_other hne]

theorem on_afterCall_le (bus : HvBus) (v : ChannelView) (c : HvCall) :
    (afterCall bus v c).on ≤ v.on := by
  unfold afterCall
  split
  · exact Nat.le_refl _
  · exact Nat.sub_le _ _

theorem on_afterSecure (hv : v.on ≤ 1) : (afterSecure bus v ch).on = 0 := by
  have hcall := on_afterCall_le bus v (.reset ch)
  unfold afterSecure afterPowerOff
  split <;> simp only [ChannelView.toBad_on, ChannelView.toOff_on, ChannelView.ask_on] <;> omega

theorem bad_toBad_pos : 0 < v.toBad.bad := by
  rw [ChannelView.toBad_bad]
  omega

theorem bad_afterUnsafe (bus : HvBus) (readFailed : Bool) (v : ChannelView) (ch : Int) :
    0 < (afterUnsafe bus readFailed v ch).bad := by
  unfold afterUnsafe
  split <;> exact bad_toBad_pos

theorem on_afterUnsafe {readFailed : Bool} (hv : v.on ≤ 1) :
    (afterUnsafe bus readFailed v ch).on = 0 := by
  unfold afterUnsafe
  split
  · rw [ChannelView.toBad_on]
    omega
  · exact on_afterSecure hv

theorem asked_afterUnsafe_other {readFailed : Bool} (c : HvCall) (hreset : c ≠ .reset ch)
    (hoff : c ≠ .powerOff ch) : (afterUnsafe bus readFailed v ch).asked c = v.asked c := by
  unfold afterUnsafe
  split
  · rfl
  · exact asked_afterSecure_other hreset hoff

end Views

/-! ## What the boards have answered -/

/-- The boards have answered `r` to the call `c` between `w` and `w'`. -/
def Answered (bus : HvBus) (w w' : World HvLists HvCall) (c : HvCall) (r : Except String c.Value) :
    Prop :=
  ∃ n, w.calls.count c ≤ n ∧ n < w'.calls.count c ∧ bus.answer c n = r

/-- A reading of the channel has failed. -/
def Unreadable (bus : HvBus) (w w' : World HvLists HvCall) (ch : Int) : Prop :=
  (∃ e, Answered bus w w' (.getStatus ch) (.error e)) ∨
    ∃ e, Answered bus w w' (.getAlarm ch) (.error e)

/-- The channel was found in TRIP or with an alarm. -/
def Alarming (bus : HvBus) (w w' : World HvLists HvCall) (ch : Int) : Prop :=
  (∃ code, Answered bus w w' (.getStatus ch) (.ok code) ∧ statusString code = .trip) ∨
    ∃ code, Answered bus w w' (.getAlarm ch) (.ok code) ∧ alarmString code ≠ "none"

/-- The unsafe channels of a response. -/
def reported (response : HvResponse) : List Int :=
  match response.result.data with
  | .safety _ unsafeChannels => unsafeChannels.map (·.channel)
  | _ => []

/-- What the check that began in `w` and ended in `w'` should have done about a channel. -/
structure Verdict (bus : HvBus) (w : World HvLists HvCall) (response : HvResponse)
    (w' : World HvLists HvCall) (ch : Int) : Prop where
  on : ch ∈ w'.state.onCh → (∃ code, Answered bus w w' (.getStatus ch) (.ok code)) ∧
    (∃ code, Answered bus w w' (.getAlarm ch) (.ok code)) ∧
    ¬ Unreadable bus w w' ch ∧ ¬ Alarming bus w w' ch
  found : Unreadable bus w w' ch ∨ Alarming bus w w' ch →
    ch ∈ w'.state.badCh ∧ ch ∈ reported response
  secured : Alarming bus w w' ch → ¬ Unreadable bus w w' ch →
    w.calls.count (.reset ch) < w'.calls.count (.reset ch) ∧
      w.calls.count (.powerOff ch) < w'.calls.count (.powerOff ch)

section Answered

variable {w' : World HvLists HvCall} {c : HvCall} {r : Except String c.Value}

theorem not_answered (hc : c.slave? = some ch)
    (h : (ChannelView.of w' ch).asked c = (ChannelView.of w ch).asked c) :
    ¬ Answered bus w w' c r := by
  rw [ChannelView.asked_of hc, ChannelView.asked_of hc] at h
  rintro ⟨n, hle, hlt, -⟩
  omega

theorem answered_once (hc : c.slave? = some ch)
    (h : (ChannelView.of w' ch).asked c = (ChannelView.of w ch).asked c + 1) :
    Answered bus w w' c r ↔ bus.answer c ((ChannelView.of w ch).asked c) = r := by
  rw [ChannelView.asked_of hc, ChannelView.asked_of hc] at h
  rw [ChannelView.asked_of hc]
  constructor
  · rintro ⟨n, hle, hlt, hr⟩
    rwa [show n = w.calls.count c by omega] at hr
  · exact fun hr => ⟨_, le_rfl, by omega, hr⟩

end Answered

/-! ## The cases of the check -/

section Cases

variable {w' : World HvLists HvCall} {response : HvResponse} {vs va : ChannelView}

/-- A channel that is not OK is not read. -/
theorem Verdict.skipped (hon : ch ∉ w.state.onCh)
    (hview : ChannelView.of w' ch = ChannelView.of w ch) : Verdict bus w response w' ch := by
  have hnone : ∀ c : HvCall, c.slave? = some ch → ∀ r, ¬ Answered bus w w' c r :=
    fun c hc r => not_answered hc (by rw [hview])
  have hquiet : ¬ (Unreadable bus w w' ch ∨ Alarming bus w w' ch) := by
    rintro ((⟨e, h⟩ | ⟨e, h⟩) | ⟨code, h, -⟩ | ⟨code, h, -⟩) <;> exact hnone _ rfl _ h
  have hcount : w'.state.onCh.count ch = 0 := by
    have h := congrArg ChannelView.on hview
    exact h.trans (List.count_eq_zero_of_not_mem hon)
  exact {
    on := fun h => absurd (List.count_pos_iff.2 h) (by omega)
    found := fun h => absurd h hquiet
    secured := fun h _ => absurd (.inr h) hquiet }

/-- A channel that was read in vain, or found unsafe, and dealt with. -/
theorem Verdict.dealtWith {readFailed : Bool} (hview : ChannelView.of w' ch =
      afterUnsafe bus readFailed va ch) (hon : va.on ≤ 1) (hreported : ch ∈ reported response)
    (hcalls : ∀ c, (ChannelView.of w ch).asked c ≤ va.asked c)
    (hsecured : Alarming bus w w' ch → ¬ Unreadable bus w w' ch → readFailed = false) :
    Verdict bus w response w' ch where
  on h := by
    have hzero := congrArg ChannelView.on hview
    rw [on_afterUnsafe hon] at hzero
    exact absurd (List.count_pos_iff.2 h) (Nat.not_lt.2 hzero.le)
  found _ := by
    refine ⟨List.count_pos_iff.1 ?_, hreported⟩
    have hpos := bad_afterUnsafe bus readFailed va ch
    rw [← hview] at hpos
    exact hpos
  secured halarm hread := by
    have hsecure : ChannelView.of w' ch = afterSecure bus va ch := by
      rw [hview, hsecured halarm hread]
      rfl
    have hreset := congrArg (fun v => v.asked (.reset ch)) hsecure
    have hoff := congrArg (fun v => v.asked (.powerOff ch)) hsecure
    have hle := hcalls (.reset ch)
    have hle' := hcalls (.powerOff ch)
    rw [reset_afterSecure, ChannelView.asked_of rfl] at hreset
    rw [powerOff_afterSecure, ChannelView.asked_of rfl] at hoff
    rw [ChannelView.asked_of rfl] at hle hle'
    omega

/-- The readings of a channel in the two passes: nothing, an unreadable status, an unreadable alarm, or
both. -/
theorem Verdict.of_readings {chs : List Int} {status alarm : HvResult} {w₁ w₂ : World HvLists HvCall}
    {statuses : List (Int × HvStatus)} {alarms : List (Int × String)} (hch : ch ∈ chs)
    (hon : (ChannelView.of w ch).on ≤ 1) (hok : (ChannelView.of w ch).ok ≤ 1)
    (honOk : ch ∈ w.state.onCh → ch ∈ w.state.okCh)
    (hstatusFailed : ch ∈ status.failedChannels ↔ ch ∈ chs ∧ 0 < (ChannelView.of w ch).ok ∧
      got bus (ChannelView.of w ch) (.getStatus ch) = none)
    (hstatus : status.data = .status (HV.dictOf statuses))
    (hstatuses : (HV.dictOf statuses).get? ch = if 0 < (ChannelView.of w ch).ok
      then (got bus (ChannelView.of w ch) (.getStatus ch)).map statusString else none)
    (hview₁ : ChannelView.of w₁ ch = if ch ∈ chs ∧ 0 < (ChannelView.of w ch).ok
      then afterCall bus (ChannelView.of w ch) (.getStatus ch) else ChannelView.of w ch)
    (halarmFailed : ch ∈ alarm.failedChannels ↔ ch ∈ chs ∧ 0 < (ChannelView.of w₁ ch).ok ∧
      got bus (ChannelView.of w₁ ch) (.getAlarm ch) = none)
    (halarm : alarm.data = .alarm (HV.dictOf alarms))
    (halarms : (HV.dictOf alarms).get? ch = if 0 < (ChannelView.of w₁ ch).ok
      then (got bus (ChannelView.of w₁ ch) (.getAlarm ch)).map alarmString else none)
    (hview₂ : ChannelView.of w₂ ch = if ch ∈ chs ∧ 0 < (ChannelView.of w₁ ch).ok
      then afterCall bus (ChannelView.of w₁ ch) (.getAlarm ch) else ChannelView.of w₁ ch)
    (hview : ChannelView.of w' ch = if HV.isUnsafe (HV.checkedChannel status alarm ch)
      then afterUnsafe bus (HV.checkedChannel status alarm ch).readFailed (ChannelView.of w₂ ch) ch
      else ChannelView.of w₂ ch)
    (hreported : HV.isUnsafe (HV.checkedChannel status alarm ch) = true → ch ∈ reported response) :
    Verdict bus w response w' ch := by
  set v := ChannelView.of w ch with hv
  have hstatusField : (HV.checkedChannel status alarm ch).status = (HV.dictOf statuses).get? ch := by
    unfold HV.checkedChannel
    rw [hstatus]
  have halarmField : (HV.checkedChannel status alarm ch).alarm = (HV.dictOf alarms).get? ch := by
    unfold HV.checkedChannel
    rw [halarm]
  have hfailedField : (HV.checkedChannel status alarm ch).readFailed = true ↔
      ch ∈ status.failedChannels ∨ ch ∈ alarm.failedChannels := decide_eq_true_iff
  have hverdict : HV.isUnsafe (HV.checkedChannel status alarm ch) = true ↔
      ((HV.checkedChannel status alarm ch).readFailed = true ∨
        (HV.checkedChannel status alarm ch).status = some .trip) ∨
        HV.alarmActive (HV.checkedChannel status alarm ch).alarm = true := by
    unfold HV.isUnsafe
    rw [Bool.or_eq_true, Bool.or_eq_true, decide_eq_true_eq]
  have hstatusNe : HvCall.getStatus ch ≠ .getAlarm ch := nofun
  have halarmNe : HvCall.getAlarm ch ≠ .getStatus ch := nofun
  by_cases hused : 0 < v.ok
  · rw [if_pos ⟨hch, hused⟩] at hview₁
    rw [if_pos hused] at hstatuses
    cases hs : got bus v (.getStatus ch) with
    | none =>
      have hv₁ : ChannelView.of w₁ ch = (v.ask (.getStatus ch)).toBad := by
        rw [hview₁, afterCall, hs]
        rfl
      have hnot : ¬ 0 < (ChannelView.of w₁ ch).ok := by
        rw [hv₁, ChannelView.toBad_ok, ChannelView.ask_ok]
        omega
      rw [if_neg fun h => hnot h.2, hv₁] at hview₂
      have hfailed := hfailedField.2 (.inl (hstatusFailed.2 ⟨hch, hused, hs⟩))
      have hbad := hverdict.2 (.inl (.inl hfailed))
      rw [if_pos hbad] at hview
      refine Verdict.dealtWith hview ?_ (hreported hbad) (fun c => ?_) fun _ hread => ?_
      · rw [hview₂, ChannelView.toBad_on, ChannelView.ask_on]
        omega
      · rw [hview₂, ChannelView.toBad_asked]
        exact ChannelView.le_ask
      · refine absurd (.inl ?_) hread
        obtain ⟨e, he⟩ := error_of_got hs
        refine ⟨e, (answered_once rfl ?_).2 he⟩
        rw [hview, asked_afterUnsafe_other (.getStatus ch) nofun nofun, hview₂, ChannelView.toBad_asked,
          ChannelView.ask_self]
    | some code =>
      have hv₁ : ChannelView.of w₁ ch = v.ask (.getStatus ch) := by
        rw [hview₁, afterCall, hs]
        rfl
      have hused₁ : 0 < (ChannelView.of w₁ ch).ok := by rwa [hv₁]
      rw [if_pos ⟨hch, hused₁⟩] at hview₂
      rw [if_pos hused₁] at halarms
      cases ha : got bus (ChannelView.of w₁ ch) (.getAlarm ch) with
      | none =>
        have hv₂ : ChannelView.of w₂ ch = ((v.ask (.getStatus ch)).ask (.getAlarm ch)).toBad := by
          rw [hview₂, afterCall, ha, hv₁]
          rfl
        have hfailed := hfailedField.2 (.inr (halarmFailed.2 ⟨hch, hused₁, ha⟩))
        have hbad := hverdict.2 (.inl (.inl hfailed))
        rw [if_pos hbad] at hview
        refine Verdict.dealtWith hview ?_ (hreported hbad) (fun c => ?_) fun _ hread => ?_
        · rw [hv₂, ChannelView.toBad_on, ChannelView.ask_on, ChannelView.ask_on]
          omega
        · rw [hv₂, ChannelView.toBad_asked]
          exact ChannelView.le_ask.trans ChannelView.le_ask
        · refine absurd (.inr ?_) hread
          obtain ⟨e, he⟩ := error_of_got ha
          rw [hv₁, ChannelView.ask_other halarmNe] at he
          refine ⟨e, (answered_once rfl ?_).2 he⟩
          rw [hview, asked_afterUnsafe_other (.getAlarm ch) nofun nofun, hv₂, ChannelView.toBad_asked,
            ChannelView.ask_self, ChannelView.ask_other halarmNe]
      | some code' =>
        have hv₂ : ChannelView.of w₂ ch = (v.ask (.getStatus ch)).ask (.getAlarm ch) := by
          rw [hview₂, afterCall, ha, hv₁]
          rfl
        rw [hs] at hstatuses
        rw [ha] at halarms
        have hread : ¬ (HV.checkedChannel status alarm ch).readFailed = true := by
          rw [hfailedField, hstatusFailed, halarmFailed, hs, ha]
          rintro (⟨-, -, h⟩ | ⟨-, -, h⟩) <;> cases h
        have hiff : HV.isUnsafe (HV.checkedChannel status alarm ch) = true ↔
            statusString code = .trip ∨ alarmString code' ≠ "none" := by
          rw [hverdict, hstatusField, halarmField, hstatuses, halarms, or_iff_right hread]
          exact or_congr Option.some_inj decide_eq_true_iff
        have hstatusAsked : (ChannelView.of w₂ ch).asked (.getStatus ch) =
            v.asked (.getStatus ch) + 1 := by
          rw [hv₂, ChannelView.ask_other hstatusNe, ChannelView.ask_self]
        have halarmAsked : (ChannelView.of w₂ ch).asked (.getAlarm ch) =
            v.asked (.getAlarm ch) + 1 := by
          rw [hv₂, ChannelView.ask_self, ChannelView.ask_other halarmNe]
        by_cases hbad : HV.isUnsafe (HV.checkedChannel status alarm ch) = true
        · rw [if_pos hbad] at hview
          refine Verdict.dealtWith hview ?_ (hreported hbad) (fun c => ?_) fun _ _ =>
            Bool.eq_false_iff.2 hread
          · rwa [hv₂]
          · rw [hv₂]
            exact ChannelView.le_ask.trans ChannelView.le_ask
        · rw [if_neg hbad] at hview
          rw [← hview] at hstatusAsked halarmAsked
          have hansStatus := answer_of_got hs
          have hansAlarm := answer_of_got ha
          rw [hv₁, ChannelView.ask_other halarmNe] at hansAlarm
          have hreadable : ¬ Unreadable bus w w' ch := by
            rintro (⟨e, h⟩ | ⟨e, h⟩)
            · cases hansStatus.symm.trans ((answered_once rfl hstatusAsked).1 h)
            · cases hansAlarm.symm.trans ((answered_once rfl halarmAsked).1 h)
          have hquiet : ¬ Alarming bus w w' ch := by
            rintro (⟨c, h, htrip⟩ | ⟨c, h, hactive⟩)
            · obtain rfl := Except.ok.inj
                (hansStatus.symm.trans ((answered_once rfl hstatusAsked).1 h))
              exact hbad (hiff.2 (.inl htrip))
            · obtain rfl := Except.ok.inj
                (hansAlarm.symm.trans ((answered_once rfl halarmAsked).1 h))
              exact hbad (hiff.2 (.inr hactive))
          exact {
            on := fun _ => ⟨⟨code, (answered_once rfl hstatusAsked).2 hansStatus⟩,
              ⟨code', (answered_once rfl halarmAsked).2 hansAlarm⟩, hreadable, hquiet⟩
            found := fun h => absurd h (not_or.2 ⟨hreadable, hquiet⟩)
            secured := fun h _ => absurd h hquiet }
  · have hnotOk : ch ∉ w.state.okCh := fun h => hused (List.count_pos_iff.2 h)
    rw [if_neg fun h => hused h.2] at hview₁
    rw [if_neg hused] at hstatuses
    rw [hview₁, if_neg fun h => hused h.2] at hview₂
    rw [hview₁, if_neg hused] at halarms
    have hsafe : ¬ HV.isUnsafe (HV.checkedChannel status alarm ch) = true := by
      rw [hverdict, hfailedField, hstatusField, halarmField, hstatuses, halarms, hstatusFailed,
        halarmFailed, hview₁]
      rintro (((⟨-, h, -⟩ | ⟨-, h, -⟩) | h) | h)
      · exact hused h
      · exact hused h
      · cases h
      · cases h
    rw [if_neg hsafe] at hview
    exact Verdict.skipped (fun h => hnotOk (honOk h)) (hview.trans hview₂)

end Cases

/-! ## The check -/

/-- The dictionary of a pass. -/
theorem get?_readings {entries : List (Int × α)} {b : Prop} [Decidable b] {o : Option α}
    (hnodup : (entries.map Prod.fst).Nodup) (h : ∀ a, (ch, a) ∈ entries ↔ b ∧ o = some a) :
    (HV.dictOf entries).get? ch = if b then o else none := by
  refine Option.ext fun a => (get?_dictOf hnodup).trans ((h a).trans ?_)
  split
  next hb => exact and_iff_right hb
  next hb => exact iff_of_false (fun h => hb h.1) nofun

/-- The safety check of channels that exist and differ, from lists that are consistent, finds the
unsafe ones and leaves none of them on. A list with a channel that does not exist is refused. -/
theorem checkChannelSafety_verdict (bus : HvBus) (chs : List Int) (w : World HvLists HvCall)
    (hlists : w.state.Consistent) (hnodup : chs.Nodup) :
    Ends (fun response w' => ∀ ch ∈ chs, Verdict bus w response w' ch)
      (fun w' => w' = w ∧ ∃ ch ∈ chs, ch < 1 ∨ 7 < ch)
      (HV.checkChannelSafety chs bus w) := by
  by_cases hinvalid : ∃ ch ∈ chs, ch < 1 ∨ 7 < ch
  · have hlist : ∃ ch ∈ (ChannelsArg.list chs).chList 7, ch < 1 ∨ 7 < ch := hinvalid
    obtain ⟨e, he⟩ := definition_of_invalid hlist
    have hraise : HV.channelsDefinition (.list chs) bus w = (.error e, w) := by
      unfold HV.channelsDefinition
      rw [he]
      rfl
    have hrun : HV.checkChannelSafety chs bus w = (.error e, w) :=
      bind_of_error (bind_of_error hraise)
    rw [hrun]
    exact ⟨rfl, hinvalid⟩
  · have hvalid : ∀ ch ∈ chs, 1 ≤ ch ∧ ch ≤ 7 := fun ch hch => by
      by_contra hnot
      exact hinvalid ⟨ch, hch, by omega⟩
    have hchs : hvChannelsDefinition (.list chs) = .ok chs := definition_of_valid hvalid
    obtain ⟨status, w₁, hrun₁, hfailed₁, ⟨statuses, hdata₁, hnodup₁, hentries₁⟩, hview₁⟩ :=
      okChannels_run hchs hnodup .getStatus (fun _ => rfl) (fun _ => statusString)
        (fun rs => .status (HV.dictOf rs)) w
    obtain ⟨alarm, w₂, hrun₂, hfailed₂, ⟨alarms, hdata₂, hnodup₂, hentries₂⟩, hview₂⟩ :=
      okChannels_run hchs hnodup .getAlarm (fun _ => rfl) (fun _ => alarmString)
        (fun rs => .alarm (HV.dictOf rs)) w₁
    let record := HV.checkedChannel status alarm
    let bad := chs.filter fun ch => HV.isUnsafe (record ch)
    obtain ⟨w', hrun₃, hview₃⟩ := forEach_acts
      (fun ch => afterUnsafe bus (record ch).readFailed (ChannelView.of w₂ ch) ch) bad w₂
      (hnodup.filter _) fun ch hch => acts_handleUnsafe (record ch)
        (hvalid ch (List.mem_filter.1 hch).1)
    let found := (chs.map record).filter HV.isUnsafe
    have hfound : found = bad.map record := List.filter_map
    have hloop : forEach found HV.handleUnsafe bus w₂ = (.ok (), w') := by
      rw [hfound, forEach_map]
      exact hrun₃
    have hrun : HV.checkChannelSafety chs bus w = (.ok (HvResponse.unlessFailed
        (found.map (·.channel)) { data := .safety (chs.map record) found }
        s!"Unsafe HV channels detected: {pyList (found.map CheckedChannel.channel)}"), w') :=
      (bind_of_ok hrun₁).trans ((bind_of_ok hrun₂).trans (bind_of_ok hloop))
    rw [hrun]
    intro ch hch
    have hinc := hlists.increasing
    refine Verdict.of_readings hch (List.nodup_iff_count_le_one.1 hinc.on.nodup ch)
      (List.nodup_iff_count_le_one.1 hinc.ok.nodup ch) (fun h => hlists.on_subset_ok h)
      (hfailed₁ ch) hdata₁ (get?_readings hnodup₁ fun a => ?_) (hview₁ ch) (hfailed₂ ch) hdata₂
      (get?_readings hnodup₂ fun a => ?_) (hview₂ ch) ?_ fun h => ?_
    · exact (hentries₁ ch a).trans (and_iff_right hch)
    · exact (hentries₂ ch a).trans (and_iff_right hch)
    · rw [hview₃]
      simp only [bad, List.mem_filter, hch, true_and]
      rfl
    · have hmem : ch ∈ found.map (·.channel) := by
        rw [hfound, List.map_map]
        exact List.mem_map.2 ⟨ch, List.mem_filter.2 ⟨hch, h⟩, rfl⟩
      unfold HvResponse.unlessFailed
      split
      · exact hmem
      · exact hmem

/-- Boards whose channels are up, except that channel 3 is tripped at the first look. -/
def onceTrippedBus : HvBus where
  answer
    | .getStatus 3, 0 => .ok (6 : Nat)
    | .getStatus _, _ => .ok (0 : Nat)
    | c, n => answeringBus.answer c n
  rounds _ := 3

/-- Channel 4 is on. -/
def fourOn : World HvLists HvCall := { state := { okCh := [3, 4], onCh := [3, 4] } }

theorem checkChannelSafety_tripped : ([3, 4] : List Int).Nodup ∧
    Ends (fun response w' => ∀ ch ∈ [3, 4], Verdict onceTrippedBus fourOn response w' ch)
      (fun w' => w' = fourOn ∧ ∃ ch ∈ ([3, 4] : List Int), ch < 1 ∨ 7 < ch)
      (HV.checkChannelSafety [3, 4] onceTrippedBus fourOn) :=
  ⟨by decide, checkChannelSafety_verdict onceTrippedBus [3, 4] fourOn
    ⟨by decide, List.disjoint_nil_right _, List.disjoint_nil_right _, by decide, by decide,
      by decide, by decide, by decide⟩
    (by decide)⟩

/-- Channel 3 was found tripped by the first of two readings, and is still in service. A list that
names channel 8 is not checked at all. -/
theorem checkChannelSafety_missed :
    (Alarming onceTrippedBus fourOn (HV.checkChannelSafety [3, 3] onceTrippedBus fourOn).2 3 ∧
      3 ∉ (HV.checkChannelSafety [3, 3] onceTrippedBus fourOn).2.state.badCh) ∧
    3 ∈ (HV.checkChannelSafety [3, 8] onceTrippedBus fourOn).2.state.onCh ∧
      (HV.checkChannelSafety [3, 8] onceTrippedBus fourOn).2.calls = [] :=
  ⟨⟨.inl ⟨(6 : Nat), ⟨0, by decide +kernel, by decide +kernel, rfl⟩, rfl⟩, by decide +kernel⟩,
    by decide +kernel, by decide +kernel⟩

end SafetyCheck

end MultiDAQ.Client
