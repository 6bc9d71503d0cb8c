import MultiDAQ.Client.Verify.CommandRules
import MultiDAQ.Lib.Polling

/-!
# Switching channels and waiting for them

`on_and_wait` and `off_and_wait` are one procedure, `switchAndWait`: switch every requested OK
channel, look at the ones that accepted it once a round, and give up those that have not arrived when
no round is left. What it does to one channel leaves the others alone, so the channels can be followed one by
one: `PowerWait.At` is the phase of a channel, and a run takes every used channel to the phase of a
channel that arrived or to the one of a channel that failed (`onAndWait_offAndWait_partition`).
-/

namespace MultiDAQ.Client

open MultiDAQ.Lib MultiDAQ.Lib.Interaction

/-! ## What is done to one channel -/

/-- The slave that a call is for. -/
def HvCall.slave? : HvCall → Option Int
  | .resetConnection => none
  | .readAddress ch | .getStatus ch | .getAlarm ch | .getVoltage ch | .getCurrent ch
  | .getTemperature ch | .getVoltageSet ch | .getThreshold ch | .getInfo ch | .setVoltageSet _ ch
  | .setThreshold _ ch | .setModbusAddress _ ch | .setPMTSerialNumber _ ch | .powerOn ch
  | .powerOff ch | .reset ch => some ch

/-- What is done to the channel `ch` keeps `I`. -/
structure Elsewhere (ch : Int) (I : World HvLists HvCall → Prop) : Prop where
  issue : ∀ {w c}, c.slave? = some ch → I w → I (w.issue c)
  moveToBad : ∀ {w}, I w → I (w.update (·.moveToBad ch))
  moveToOn : ∀ {w}, I w → I (w.update (·.moveToOn ch))
  moveToOff : ∀ {w}, I w → I (w.update (·.moveToOff ch))

namespace Elsewhere

variable {bus : HvBus} {ch : Int} {I : World HvLists HvCall → Prop} (h : Elsewhere ch I)

include h

theorem call {c : HvCall} (hc : c.slave? = some ch) : Keeps bus I (call c) :=
  keeps_call fun _ hw => h.issue hc hw

theorem keeps_moveToBad : Keeps bus I (HV.moveToBad ch) := keeps_modify fun _ hw => h.moveToBad hw

theorem keeps_moveToOn : Keeps bus I (HV.moveToOn ch) := keeps_modify fun _ hw => h.moveToOn hw

theorem keeps_moveToOff : Keeps bus I (HV.moveToOff ch) := keeps_modify fun _ hw => h.moveToOff hw

theorem readStatusAlarm : Keeps bus I (HV.readStatusAlarm ch) :=
  keeps_bind (keeps_map (h.call rfl)) fun _ => keeps_bind (keeps_map (h.call rfl)) fun _ =>
    keeps_pure _

theorem shutdown : Keeps bus I (HV.shutdown ch) :=
  keeps_try (keeps_bind (h.call rfl) fun _ => h.call rfl) fun _ => keeps_pure ()

theorem powerOnFailed : Keeps bus I (HV.powerOnFailed ch) :=
  keeps_bind h.shutdown fun _ => h.keeps_moveToBad

theorem pollUp : Keeps bus I (HV.pollUp ch) := by
  refine keeps_try (keeps_bind h.readStatusAlarm fun r => ?_) fun _ =>
    keeps_bind h.powerOnFailed fun _ => keeps_pure _
  obtain ⟨status, alarm⟩ := r
  dsimp only
  split
  · exact keeps_bind h.keeps_moveToOn fun _ => keeps_pure _
  · split
    · exact keeps_pure _
    · exact keeps_bind h.powerOnFailed fun _ => keeps_pure _

theorem pollDown : Keeps bus I (HV.pollDown ch) := by
  refine keeps_try (keeps_bind (keeps_map (h.call rfl)) fun status => ?_) fun _ =>
    keeps_bind h.keeps_moveToBad fun _ => keeps_pure _
  split
  · exact keeps_bind h.keeps_moveToOff fun _ => keeps_pure _
  · exact keeps_bind h.shutdown fun _ => keeps_bind h.keeps_moveToBad fun _ => keeps_pure _
  · exact keeps_pure none

theorem safeToRecover : Keeps bus I (HV.safeToRecover ch) := by
  refine keeps_bind (keeps_addressAnswers fun _ => h.issue rfl) fun answers => ?_
  split
  · refine keeps_bind (keeps_map (h.call rfl)) fun status => ?_
    split
    · exact keeps_pure false
    · exact keeps_bind (keeps_map (h.call rfl)) fun _ => keeps_pure _
  · exact keeps_pure false

theorem restoreParameters {acqInfo : HV.AcqInfo} :
    Keeps bus I (HV.restoreParameters acqInfo ch) := by
  unfold HV.restoreParameters
  split
  · exact keeps_attempt (keeps_bind (h.call rfl) fun _ => h.call rfl) h.keeps_moveToBad
  · exact keeps_pure none

end Elsewhere

/-! ## The phase of a channel -/

/-- The power state that a request asks for. -/
inductive PowerGoal
  | on
  | off
  deriving DecidableEq, Repr

/-- What a channel reads as when it has arrived. -/
def PowerGoal.status : PowerGoal → HvStatus
  | .on => .up
  | .off => .down

/-- Where a channel that has arrived is kept. -/
def PowerGoal.list : PowerGoal → HvLists → List Int
  | .on, s => s.onCh
  | .off, s => s.offCh

/-- How often the status of a channel has been asked for. -/
def looks (w : World HvLists HvCall) (ch : Int) : Nat := w.calls.count (.getStatus ch)

/-- How often a channel has been reset. -/
def resets (w : World HvLists HvCall) (ch : Int) : Nat := w.calls.count (.reset ch)

/-- The answer to the last question for the status of a channel. -/
def lastSeen (bus : HvBus) (w : World HvLists HvCall) (ch : Int) : Option HvStatus :=
  match looks w ch with
  | 0 => none
  | n + 1 => (bus.answer (.getStatus ch) n).toOption.map statusString

namespace PowerWait

variable (bus : HvBus) (goal : PowerGoal) (w₀ : World HvLists HvCall) (rounds : Nat)

/-- Since `w₀` a channel has been looked at at most once a round. -/
structure Since (ch : Int) (w : World HvLists HvCall) : Prop where
  begun : looks w₀ ch ≤ looks w ch
  rounds : looks w ch ≤ looks w₀ ch + rounds
  resets : resets w₀ ch ≤ resets w ch

/-- A channel that was last seen in the requested state. -/
structure Arrived (ch : Int) (w : World HvLists HvCall) : Prop where
  looked : looks w₀ ch < looks w ch
  seen : lastSeen bus w ch = some goal.status
  listed : ch ∈ goal.list w.state

/-- A channel that was given up. -/
structure Failed (ch : Int) (w : World HvLists HvCall) : Prop where
  bad : ch ∈ w.state.badCh
  reset : goal = .on → resets w₀ ch < resets w ch

/-- What a request has to do with a channel so far. -/
inductive Phase
  | apart
  | awaited (looks : Nat)
  | settled (arrived : Bool)

def At (ch : Int) : Phase → World HvLists HvCall → Prop
  | .apart, w => Since w₀ rounds ch w
  | .awaited r, w => Since w₀ rounds ch w ∧ looks w ch = looks w₀ ch + r ∧ ch ∈ w.state.okCh
  | .settled true, w => Since w₀ rounds ch w ∧ Arrived bus goal w₀ ch w
  | .settled false, w => Since w₀ rounds ch w ∧ Failed goal w₀ ch w

variable {bus goal w₀ rounds} {w : World HvLists HvCall} {ch x : Int} {phase : Phase} {c : HvCall}

theorem At.since (h : At bus goal w₀ rounds ch phase w) : Since w₀ rounds ch w := by
  cases phase with
  | apart => exact h
  | awaited r => exact h.1
  | settled arrived => cases arrived <;> exact h.1

theorem Since.mono {rounds' : Nat} (h : Since w₀ rounds ch w) (hle : rounds ≤ rounds') :
    Since w₀ rounds' ch w :=
  { h with rounds := h.rounds.trans (Nat.add_le_add_left hle _) }

theorem At.mono {rounds' : Nat} (h : At bus goal w₀ rounds ch phase w) (hle : rounds ≤ rounds') :
    At bus goal w₀ rounds' ch phase w := by
  cases phase with
  | apart => exact Since.mono h hle
  | awaited r => exact ⟨h.1.mono hle, h.2⟩
  | settled arrived => cases arrived <;> exact ⟨h.1.mono hle, h.2⟩

/-! ## The phases of the other channels -/

theorem looks_issue (hc : c ≠ .getStatus ch) : looks (w.issue c) ch = looks w ch := by
  unfold looks
  rw [World.issue_calls, List.count_append, List.count_singleton, if_neg (by simpa using hc),
    Nat.add_zero]

theorem looks_getStatus : looks (w.issue (.getStatus ch)) ch = looks w ch + 1 := by
  unfold looks
  rw [World.issue_calls, List.count_append, List.count_singleton_self]

theorem resets_reset : resets (w.issue (.reset ch)) ch = resets w ch + 1 := by
  unfold resets
  rw [World.issue_calls, List.count_append, List.count_singleton_self]

theorem resets_le_issue : resets w ch ≤ resets (w.issue c) ch := by
  unfold resets
  rw [World.issue_calls, List.count_append]
  exact Nat.le_add_right _ _

theorem lastSeen_issue (hc : c ≠ .getStatus ch) :
    lastSeen bus (w.issue c) ch = lastSeen bus w ch := by
  unfold lastSeen
  rw [looks_issue hc]

/-- A call that does not look at the channel. -/
theorem Since.issue (h : Since w₀ rounds ch w) (hc : c ≠ .getStatus ch) :
    Since w₀ rounds ch (w.issue c) where
  begun := by rw [looks_issue hc]; exact h.begun
  rounds := by rw [looks_issue hc]; exact h.rounds
  resets := h.resets.trans resets_le_issue

theorem At.issue (h : At bus goal w₀ rounds ch phase w) (hc : c ≠ .getStatus ch) :
    At bus goal w₀ rounds ch phase (w.issue c) := by
  have hsince := h.since.issue hc
  cases phase with
  | apart => exact hsince
  | awaited r => exact ⟨hsince, (looks_issue hc).trans h.2.1, h.2.2⟩
  | settled arrived =>
    cases arrived with
    | true =>
      obtain ⟨-, hlooked, hseen, hlisted⟩ := h
      refine ⟨hsince, ?_, (lastSeen_issue hc).trans hseen, hlisted⟩
      rwa [looks_issue hc]
    | false => exact ⟨hsince, h.2.bad, fun hgoal => (h.2.reset hgoal).trans_le resets_le_issue⟩

/-- An update of the lists that leaves the channel where it is. -/
theorem At.update {f : HvLists → HvLists} (h : At bus goal w₀ rounds ch phase w)
    (hok : ch ∈ w.state.okCh → ch ∈ (f w.state).okCh)
    (hbad : ch ∈ w.state.badCh → ch ∈ (f w.state).badCh)
    (hlist : ch ∈ goal.list w.state → ch ∈ goal.list (f w.state)) :
    At bus goal w₀ rounds ch phase (w.update f) := by
  have hsince : Since w₀ rounds ch (w.update f) := ⟨h.since.begun, h.since.rounds, h.since.resets⟩
  cases phase with
  | apart => exact hsince
  | awaited r => exact ⟨hsince, h.2.1, hok h.2.2⟩
  | settled arrived =>
    cases arrived with
    | true => exact ⟨hsince, h.2.looked, h.2.seen, hlist h.2.listed⟩
    | false => exact ⟨hsince, hbad h.2.bad, h.2.reset⟩

theorem elsewhere_at (hx : ch ≠ x) : Elsewhere x (At bus goal w₀ rounds ch phase) where
  issue hc h := h.issue fun heq => by
    rw [heq] at hc
    exact hx (Option.some.inj hc)
  moveToBad h := h.update (by simp [HvLists.moveToBad, List.mem_erase_of_ne hx])
    (by simpa [HvLists.moveToBad] using .inl) (by
      cases goal <;> simp +contextual [PowerGoal.list, HvLists.moveToBad, List.mem_erase_of_ne hx])
  moveToOn h := by
    refine h.update ?_ ?_ ?_
    · unfold HvLists.moveToOn
      split <;> exact fun h => h
    · unfold HvLists.moveToOn
      split <;> exact fun h => h
    · unfold HvLists.moveToOn
      split
      · exact fun h => h
      · cases goal <;> simp +contextual [PowerGoal.list, List.mem_erase_of_ne hx]
  moveToOff h := h.update (fun h => h) (fun h => h) (by
    cases goal <;> simp +contextual [PowerGoal.list, HvLists.moveToOff, List.mem_erase_of_ne hx])

/-! ## The phases of a channel itself -/

/-- A channel that was seen in the state `status` by its look number `r`. -/
structure Looked (bus : HvBus) (w₀ : World HvLists HvCall) (rounds : Nat) (ch : Int) (r : Nat)
    (status : HvStatus) (w : World HvLists HvCall) : Prop where
  since : Since w₀ rounds ch w
  looks : looks w ch = looks w₀ ch + r + 1
  seen : lastSeen bus w ch = some status
  ok : ch ∈ w.state.okCh

theorem Looked.issue {r : Nat} {status : HvStatus} (h : Looked bus w₀ rounds ch r status w)
    (hc : c ≠ .getStatus ch) : Looked bus w₀ rounds ch r status (w.issue c) where
  since := h.since.issue hc
  looks := (looks_issue hc).trans h.looks
  seen := (lastSeen_issue hc).trans h.seen
  ok := h.ok

theorem triple_getStatus {r : Nat} (hr : r < rounds) :
    Triple bus (At bus goal w₀ rounds ch (.awaited r)) (HVModBus.getStatus ch)
      (Looked bus w₀ rounds ch r) (Since w₀ rounds ch) := by
  have hsince : ∀ w, At bus goal w₀ rounds ch (.awaited r) w →
      Since w₀ rounds ch (w.issue (.getStatus ch)) := by
    rintro w ⟨hs, hlooks, -⟩
    refine ⟨?_, ?_, hs.resets.trans resets_le_issue⟩
    · rw [looks_getStatus]
      have := hs.begun
      omega
    · rw [looks_getStatus]
      omega
  refine triple_map (triple_call (fun w a hw ha => ?_) fun w _ hw _ => hsince w hw)
  refine ⟨hsince w hw, ?_, ?_, hw.2.2⟩
  · rw [looks_getStatus, hw.2.1]
  · unfold lastSeen
    rw [looks_getStatus]
    dsimp only
    rw [show looks w ch = w.calls.count (.getStatus ch) from rfl, ha]
    rfl

theorem triple_readStatusAlarm {r : Nat} (hr : r < rounds) :
    Triple bus (At bus goal w₀ rounds ch (.awaited r)) (HV.readStatusAlarm ch)
      (fun read => Looked bus w₀ rounds ch r read.1) (Since w₀ rounds ch) := by
  refine triple_bind (triple_getStatus hr) fun status => ?_
  refine triple_bind (Q := fun _ => Looked bus w₀ rounds ch r status) ?_ fun _ =>
    triple_pure fun _ h => h
  exact triple_map (triple_call (fun w _ hw _ => hw.issue nofun) fun w _ hw _ =>
    hw.since.issue nofun)

theorem triple_shutdown : Triple bus (Since w₀ rounds ch) (HV.shutdown ch)
    (fun _ w => Since w₀ rounds ch w ∧ resets w₀ ch < resets w ch) fun _ => False := by
  have hreset : ∀ w, Since w₀ rounds ch w → Since w₀ rounds ch (w.issue (.reset ch)) ∧
      resets w₀ ch < resets (w.issue (.reset ch)) ch := fun w hw => by
    refine ⟨hw.issue nofun, ?_⟩
    rw [resets_reset]
    exact Nat.lt_succ_of_le hw.resets
  have hoff : ∀ w, Since w₀ rounds ch w ∧ resets w₀ ch < resets w ch →
      Since w₀ rounds ch (w.issue (.powerOff ch)) ∧
        resets w₀ ch < resets (w.issue (.powerOff ch)) ch := fun w hw =>
    ⟨hw.1.issue nofun, hw.2.trans_le resets_le_issue⟩
  refine triple_try (triple_bind (Q := fun _ w => Since w₀ rounds ch w ∧ resets w₀ ch < resets w ch)
    (triple_call (fun w _ hw _ => hreset w hw) fun w _ hw _ => hreset w hw) fun _ => ?_)
    fun _ => triple_pure fun _ h => h
  exact triple_call (fun w _ hw _ => hoff w hw) fun w _ hw _ => hoff w hw

theorem triple_moveToBad : Triple bus
    (fun w => Since w₀ rounds ch w ∧ (goal = .on → resets w₀ ch < resets w ch)) (HV.moveToBad ch)
    (fun _ => At bus goal w₀ rounds ch (.settled false)) fun _ => False :=
  triple_modify fun w hw => ⟨⟨hw.1.begun, hw.1.rounds, hw.1.resets⟩, {
    bad := by simp [HvLists.moveToBad]
    reset := hw.2 }⟩

theorem triple_powerOnFailed : Triple bus (Since w₀ rounds ch) (HV.powerOnFailed ch)
    (fun _ => At bus goal w₀ rounds ch (.settled false)) fun _ => False :=
  triple_bind (triple_shutdown.conseq (fun _ h => h) (fun _ _ h => ⟨h.1, fun _ => h.2⟩)
    fun _ h => h) fun _ => triple_moveToBad

/-- `off_and_wait` gives a channel up without a reset. -/
theorem triple_giveUp_off : Triple bus (Since w₀ rounds ch) (HV.moveToBad ch)
    (fun _ => At bus .off w₀ rounds ch (.settled false)) fun _ => False :=
  fun w hw => triple_moveToBad w ⟨hw, nofun⟩

theorem triple_pollUp {r : Nat} (hr : r < rounds) :
    Triple bus (At bus .on w₀ rounds ch (.awaited r)) (HV.pollUp ch)
      (fun v => At bus .on w₀ rounds ch (polled .awaited .settled r v)) fun _ => False := by
  have hfailed : Triple bus (Since w₀ rounds ch)
      (HV.powerOnFailed ch >>= fun _ => pure (some false))
      (fun v => At bus .on w₀ rounds ch (polled .awaited .settled r v)) fun _ => False :=
    triple_bind triple_powerOnFailed fun _ => triple_pure fun _ h => h
  refine triple_try (triple_bind (triple_readStatusAlarm hr) fun read => ?_) fun _ => hfailed
  obtain ⟨status, alarm⟩ := read
  dsimp only
  split
  next hup =>
    refine triple_bind (Q := fun _ => At bus .on w₀ rounds ch (.settled true))
      (triple_modify fun w hw => ?_) fun _ => triple_pure fun _ h => h
    refine ⟨⟨hw.since.begun, hw.since.rounds, hw.since.resets⟩, ?_, ?_, ?_⟩
    · show looks w₀ ch < looks w ch
      rw [hw.looks]
      omega
    · exact hw.seen.trans (congrArg some hup)
    · simp [PowerGoal.list, HvLists.moveToOn, hw.ok]
  · split
    · refine triple_pure fun w hw => ⟨hw.since, ?_, hw.ok⟩
      rw [hw.looks, Nat.add_assoc]
    · exact hfailed.conseq (fun _ h => h.since) (fun _ _ h => h) fun _ h => h.elim

theorem triple_pollDown {r : Nat} (hr : r < rounds) :
    Triple bus (At bus .off w₀ rounds ch (.awaited r)) (HV.pollDown ch)
      (fun v => At bus .off w₀ rounds ch (polled .awaited .settled r v)) fun _ => False := by
  have hfailed : Triple bus (Since w₀ rounds ch) (HV.moveToBad ch >>= fun _ => pure (some false))
      (fun v => At bus .off w₀ rounds ch (polled .awaited .settled r v)) fun _ => False :=
    triple_bind triple_giveUp_off fun _ => triple_pure fun _ h => h
  refine triple_try (triple_bind (triple_getStatus hr) fun status => ?_) fun _ => hfailed
  split
  · refine triple_bind (Q := fun _ => At bus .off w₀ rounds ch (.settled true))
      (triple_modify fun w hw => ?_) fun _ => triple_pure fun _ h => h
    refine ⟨⟨hw.since.begun, hw.since.rounds, hw.since.resets⟩, ?_, hw.seen, ?_⟩
    · show looks w₀ ch < looks w ch
      rw [hw.looks]
      omega
    · simp [PowerGoal.list, HvLists.moveToOff]
  · refine triple_bind (Q := fun _ => Since w₀ rounds ch) ?_ fun _ =>
      hfailed.conseq (fun _ h => h) (fun _ _ h => h) fun _ h => h.elim
    exact triple_shutdown.conseq (fun _ h => h.since) (fun _ _ h => h.1) fun _ h => h.elim
  · refine triple_pure fun w hw => ⟨hw.since, ?_, hw.ok⟩
    rw [hw.looks, Nat.add_assoc]

/-! ## The steps of a request -/

/-- The phase after an attempt to switch a channel. -/
def switched : Option Unit → Phase
  | some _ => .awaited 0
  | none => .settled false

/-- What a request does with a channel: it is switched, looked at once a round, and given up. -/
structure Steps (bus : HvBus) (goal : PowerGoal) (switch giveUp : Int → HvM Unit)
    (poll : Int → HvM (Option Bool)) : Prop where
  onSwitch : ∀ {w₀ rounds ch}, Triple bus (At bus goal w₀ rounds ch (.awaited 0))
    (attempt (switch ch) (giveUp ch)) (fun o => At bus goal w₀ rounds ch (switched o))
    fun _ => False
  onPoll : ∀ {w₀ rounds ch r}, r < rounds → Triple bus (At bus goal w₀ rounds ch (.awaited r))
    (poll ch) (fun v => At bus goal w₀ rounds ch (polled .awaited .settled r v)) fun _ => False
  onGiveUp : ∀ {w₀ rounds ch}, Triple bus (Since w₀ rounds ch) (giveUp ch)
    (fun _ => At bus goal w₀ rounds ch (.settled false)) fun _ => False
  switchElsewhere : ∀ {ch I}, Elsewhere ch I → Keeps bus I (switch ch)
  pollElsewhere : ∀ {ch I}, Elsewhere ch I → Keeps bus I (poll ch)
  giveUpElsewhere : ∀ {ch I}, Elsewhere ch I → Keeps bus I (giveUp ch)

theorem steps_on (bus : HvBus) :
    Steps bus .on HVModBus.powerOn HV.powerOnFailed HV.pollUp where
  onSwitch := triple_try
    (triple_map (triple_call (fun _ _ hw _ => hw.issue nofun) fun _ _ hw _ => hw.1.issue nofun))
    fun _ => triple_bind triple_powerOnFailed fun _ => triple_pure fun _ h => h
  onPoll := triple_pollUp
  onGiveUp := triple_powerOnFailed
  switchElsewhere h := h.call rfl
  pollElsewhere h := h.pollUp
  giveUpElsewhere h := h.powerOnFailed

theorem steps_off (bus : HvBus) : Steps bus .off HVModBus.powerOff HV.moveToBad HV.pollDown where
  onSwitch := triple_try
    (triple_map (triple_call (fun _ _ hw _ => hw.issue nofun) fun _ _ hw _ => hw.1.issue nofun))
    fun _ => triple_bind triple_giveUp_off fun _ => triple_pure fun _ h => h
  onPoll := triple_pollDown
  onGiveUp := triple_giveUp_off
  switchElsewhere h := h.call rfl
  pollElsewhere h := h.pollDown
  giveUpElsewhere h := h.keeps_moveToBad

/-! ## A run -/

/-- What `on_and_wait` and `off_and_wait` do. -/
def switchAndWait (channels : ChannelsArg) (switch giveUp : Int → HvM Unit)
    (poll : Int → HvM (Option Bool)) : HvM HvResult := HV.withLists do
  let requested ← HV.channelsDefinition channels
  let okCh ← HV.getOkChannels
  let used := requested.filter (· ∈ okCh)
  let outcomes ← mapEach used fun ch => attempt (switch ch) (giveUp ch)
  let notPowered := HV.failures outcomes
  let pending := ((HV.successes outcomes).map (·.1)).filter (· ∉ notPowered)
  let rounds ← waitRounds
  let (settled, left) ← pollRounds poll rounds pending
  forEach left giveUp
  pure {
    requestedChannels := requested
    usedChannels := used
    skippedChannels := requested.filter (· ∉ okCh)
    successfulChannels := sorted (HV.settledWith true settled)
    failedChannels := HV.sortedSet (notPowered ++ HV.settledWith false settled ++ left) }

/-- The result of a request that began in `w₀` and ended in `w`. -/
structure Partition (bus : HvBus) (goal : PowerGoal) (channels : List Int)
    (w₀ : World HvLists HvCall) (result : HvResult) (w : World HvLists HvCall) : Prop where
  requested : result.requestedChannels = channels
  skipped : channels.Perm (result.usedChannels ++ result.skippedChannels)
  failed : result.usedChannels.Perm (result.successfulChannels ++ result.failedChannels)
  disjoint : (result.successfulChannels ++ result.failedChannels ++ result.skippedChannels).Nodup
  arrived : ∀ ch ∈ result.successfulChannels, Arrived bus goal w₀ ch w
  givenUp : ∀ ch ∈ result.failedChannels, Failed goal w₀ ch w
  /-- No channel is looked at more than once in a round that begins before the deadline. -/
  deadline : ∃ begun, w₀.calls.length ≤ begun ∧ begun ≤ w.calls.length ∧
    ∀ ch, looks w ch ≤ looks w₀ ch + bus.rounds begun

theorem since_refl (w : World HvLists HvCall) (ch : Int) : Since w 0 ch w :=
  ⟨le_rfl, le_rfl, le_rfl⟩

theorem elsewhere_grows (n : Nat) (ch : Int) :
    Elsewhere ch fun w : World HvLists HvCall => n ≤ w.calls.length where
  issue _ h := by
    rw [World.issue_calls, List.length_append]
    exact h.trans (Nat.le_add_right _ _)
  moveToBad h := h
  moveToOn h := h
  moveToOff h := h

section Run

variable {switch giveUp : Int → HvM Unit} {poll : Int → HvM (Option Bool)}
variable {used pending left : List Int} {w₁ w₂ w₃ : World HvLists HvCall}

/-- Every used channel is switched, and awaited if it accepted that. -/
theorem switch_run (h : Steps bus goal switch giveUp poll) (hnodup : used.Nodup)
    (hok : ∀ ch ∈ used, ch ∈ w.state.okCh) : ∃ outcomes w₁,
      mapEach used (fun ch => attempt (switch ch) (giveUp ch)) bus w = (.ok outcomes, w₁) ∧
      outcomes.map Prod.fst = used ∧
      (∀ e ∈ outcomes, At bus goal w 0 e.1 (switched e.2) w₁) ∧
      (∀ ch, ch ∉ used → Since w 0 ch w₁) ∧
      ∀ I, (∀ ch ∈ used, Elsewhere ch I) → I w → I w₁ := by
  have hadvances : ∀ ch ∈ used, Advances bus (At bus goal w 0) ch (.awaited 0) switched
      (attempt (switch ch) (giveUp ch)) := fun ch _ =>
    .of_triple h.onSwitch fun y b hy => keeps_attempt (h.switchElsewhere (elsewhere_at hy))
      (h.giveUpElsewhere (elsewhere_at hy))
  obtain ⟨outcomes, w₁, hrun, hkeys, hout, hframe⟩ := mapEach_advances used hadvances hnodup w
    fun ch hch => ⟨since_refl w ch, rfl, hok ch hch⟩
  refine ⟨outcomes, w₁, hrun, hkeys, hout, fun ch hch => hframe ch .apart hch (since_refl w ch),
    fun I hI hw => ?_⟩
  exact (keeps_mapEach fun ch hch => keeps_attempt (h.switchElsewhere (hI ch hch))
    (h.giveUpElsewhere (hI ch hch))).of_run hrun hw

/-- Every awaited channel is settled, or given up when the rounds are over. -/
theorem wait_run (h : Steps bus goal switch giveUp poll) (hnodup : pending.Nodup)
    (hat : ∀ ch ∈ pending, At bus goal w rounds ch (.awaited 0) w₁) : ∃ settled left w₂ w₃,
      pollRounds poll rounds pending bus w₁ = (.ok (settled, left), w₂) ∧
      forEach left giveUp bus w₂ = (.ok (), w₃) ∧
      (settled.map Prod.fst ++ left).Perm pending ∧
      (∀ e ∈ settled, At bus goal w rounds e.1 (.settled e.2) w₃) ∧
      (∀ ch ∈ left, At bus goal w rounds ch (.settled false) w₃) ∧
      (∀ ch phase, ch ∉ pending → At bus goal w rounds ch phase w₁ →
        At bus goal w rounds ch phase w₃) ∧
      ∀ I, (∀ ch ∈ pending, Elsewhere ch I) → I w₁ → I w₃ := by
  have hpolls : ∀ k, 0 ≤ k → k < 0 + rounds → ∀ ch, Advances bus (At bus goal w rounds) ch
      (.awaited k) (polled .awaited .settled k) (poll ch) := fun k _ hk ch =>
    .of_triple (h.onPoll (by omega)) fun y b hy => h.pollElsewhere (elsewhere_at hy)
  obtain ⟨settled, left, w₂, hrun, hperm, hsettled, hleft, hframe⟩ :=
    pollRounds_advances rounds 0 hpolls pending hnodup w₁ hat
  obtain ⟨-, hleftNodup, hdisjoint⟩ := List.nodup_append'.1 (hperm.nodup_iff.2 hnodup)
  have hgives : ∀ ch ∈ left, Advances bus (At bus goal w rounds) ch (.awaited (0 + rounds))
      (fun _ => .settled false) (giveUp ch) := fun ch _ =>
    .of_triple (h.onGiveUp.conseq (fun _ h => h.1) (fun _ _ h => h) fun _ h => h)
      fun y b hy => h.giveUpElsewhere (elsewhere_at hy)
  obtain ⟨w₃, hend, hdone, hframe'⟩ := forEach_advances left hgives hleftNodup w₂ hleft
  have hmem : ∀ ch ∈ left, ch ∈ pending := fun ch hch =>
    hperm.subset (List.mem_append_right _ hch)
  refine ⟨settled, left, w₂, w₃, hrun, hend, hperm, fun e he => ?_, hdone,
    fun ch phase hch hw => ?_, fun I hI hw => ?_⟩
  · exact hframe' _ _ (hdisjoint (List.mem_map_of_mem he)) (hsettled e he)
  · exact hframe' _ _ (fun hl => hch (hmem ch hl)) (hframe _ _ hch hw)
  · have hend₂ := triple_pollRounds (n := rounds) (C := (· ∈ pending))
      (fun ch hch => h.pollElsewhere (hI ch hch)) (fun _ hch => hch) w₁ hw
    rw [hrun] at hend₂
    exact (keeps_forEach fun ch hch => h.giveUpElsewhere (hI ch (hmem ch hch))).of_run hend hend₂.1

/-- A request for channels that differ returns, and what it returns partitions them. -/
theorem switchAndWait_run (h : Steps bus goal switch giveUp poll) {channels : ChannelsArg}
    {chs : List Int} (hchs : hvChannelsDefinition channels = .ok chs) (hnodup : chs.Nodup)
    (w : World HvLists HvCall) : ∃ result w',
      switchAndWait channels switch giveUp poll bus w = (.ok result, w') ∧
      result.usedChannels = chs.filter (· ∈ w.state.okCh) ∧
      Partition bus goal chs w result w' ∧
      ∀ I, (∀ ch ∈ result.usedChannels, Elsewhere ch I) → I w → I w' := by
  set used := chs.filter (· ∈ w.state.okCh) with hused
  have husedNodup : used.Nodup := hnodup.filter _
  obtain ⟨outcomes, w₁, hrun₁, hkeys, hout, hapart, hkept₁⟩ := switch_run h husedNodup
    fun ch hch => of_decide_eq_true (List.mem_filter.1 hch).2
  have hperm₁ := perm_successes_failures outcomes
  rw [hkeys] at hperm₁
  obtain ⟨hsuccNodup, hfailNodup, hdisjoint₁⟩ :=
    List.nodup_append'.1 (hperm₁.nodup_iff.1 husedNodup)
  set pending := ((HV.successes outcomes).map (·.1)).filter (· ∉ HV.failures outcomes) with hpending
  have hpendingEq : pending = (HV.successes outcomes).map (·.1) :=
    List.filter_eq_self.2 fun ch hch => decide_eq_true (hdisjoint₁ hch)
  rw [← hpendingEq] at hperm₁ hsuccNodup hdisjoint₁
  set rounds := bus.rounds w₁.calls.length with hrounds
  have hat : ∀ ch ∈ pending, At bus goal w rounds ch (.awaited 0) w₁ := fun ch hch => by
    rw [hpendingEq] at hch
    obtain ⟨⟨_, a⟩, he, rfl⟩ := List.mem_map.1 hch
    exact (hout _ (mem_successes.1 he)).mono (Nat.zero_le _)
  obtain ⟨settled, left, w₂, w₃, hrun₂, hrun₃, hperm₂, hsettled, hleft, hframe, hkept₂⟩ :=
    wait_run h hsuccNodup hat
  have hsplit := perm_settledWith settled
  let failed := HV.failures outcomes ++ HV.settledWith false settled ++ left
  have hpartition : used.Perm (HV.settledWith true settled ++ failed) := by
    rw [List.perm_iff_count]
    intro ch
    have h₁ := hperm₁.count_eq ch
    have h₂ := hperm₂.count_eq ch
    have h₃ := hsplit.count_eq ch
    simp only [failed, List.count_append] at h₁ h₂ h₃ ⊢
    omega
  obtain ⟨-, hfailedNodup, -⟩ := List.nodup_append'.1 (hpartition.nodup_iff.1 husedNodup)
  let result : HvResult := {
    requestedChannels := chs
    usedChannels := used
    skippedChannels := chs.filter (· ∉ w.state.okCh)
    successfulChannels := sorted (HV.settledWith true settled)
    failedChannels := HV.sortedSet failed
    lists := some w₃.state }
  have hsuccessful : result.successfulChannels.Perm (HV.settledWith true settled) :=
    List.perm_insertionSort _ _
  have hfailed : result.failedChannels.Perm failed := sortedSet_perm hfailedNodup
  have hresult : used.Perm (result.successfulChannels ++ result.failedChannels) :=
    hpartition.trans (hsuccessful.append hfailed).symm
  have hskipped : chs.Perm (used ++ result.skippedChannels) := perm_filter_notMem _ _
  have harrived : ∀ ch ∈ result.successfulChannels, At bus goal w rounds ch (.settled true) w₃ :=
    fun ch hch => hsettled _ (mem_settledWith.1 (hsuccessful.subset hch))
  have hgivenUp : ∀ ch ∈ result.failedChannels, At bus goal w rounds ch (.settled false) w₃ := by
    intro ch hch
    rcases List.mem_append.1 (hfailed.subset hch) with hch | hch
    · rcases List.mem_append.1 hch with hch | hch
      · exact hframe ch _ (fun hp => hdisjoint₁ hp hch)
          ((hout _ (mem_failures.1 hch)).mono (Nat.zero_le _))
      · exact hsettled _ (mem_settledWith.1 hch)
    · exact hleft ch hch
  have hsub : ∀ ch ∈ pending, ch ∈ used := fun ch hch =>
    hperm₁.symm.subset (List.mem_append_left _ hch)
  refine ⟨result, w₃, ?_, rfl, {
    requested := rfl
    skipped := hskipped
    failed := hresult
    disjoint := ((hresult.append_right _).nodup_iff.1 (hskipped.nodup_iff.1 hnodup))
    arrived := fun ch hch => (harrived ch hch).2
    givenUp := fun ch hch => (hgivenUp ch hch).2
    deadline := ⟨w₁.calls.length, ?_, ?_, fun ch => ?_⟩ }, fun I hI hw => ?_⟩
  · have hrequested : HV.channelsDefinition channels bus w = (.ok chs, w) := by
      unfold HV.channelsDefinition
      rw [hchs]
      rfl
    have hokCh : HV.getOkChannels bus w = (.ok w.state.okCh, w) := rfl
    have hwait : (waitRounds : HvM Nat) bus w₁ = (.ok rounds, w₁) := rfl
    unfold switchAndWait HV.withLists
    simp only [bind_bind, bind_of_ok hrequested, bind_of_ok hokCh]
    refine (bind_of_ok hrun₁).trans ?_
    refine bind_bind.trans ((bind_of_ok hwait).trans ?_)
    refine bind_bind.trans ((bind_of_ok hrun₂).trans ?_)
    exact bind_bind.trans (bind_of_ok hrun₃)
  · exact hkept₁ _ (fun ch _ => elsewhere_grows _ ch) le_rfl
  · exact hkept₂ _ (fun ch _ => elsewhere_grows _ ch) le_rfl
  · by_cases hch : ch ∈ used
    · rcases List.mem_append.1 (hresult.subset hch) with hch | hch
      · exact (harrived ch hch).since.rounds
      · exact (hgivenUp ch hch).since.rounds
    · have hnot : ch ∉ pending := fun hp => hch (hsub ch hp)
      exact (hframe ch .apart hnot ((hapart ch hch).mono (Nat.zero_le _))).rounds
  · exact hkept₂ I (fun ch hch => hI ch (hsub ch hch)) (hkept₁ I hI hw)

end Run

end PowerWait

/-! ## The two requests -/

/-- The request that asks for a power state. -/
def PowerGoal.request : PowerGoal → ChannelsArg → HvM HvResult
  | .on => HV.onAndWait
  | .off => HV.offAndWait

theorem PowerGoal.request_run (bus : HvBus) (goal : PowerGoal) {channels : ChannelsArg}
    {chs : List Int} (hchs : hvChannelsDefinition channels = .ok chs) (hnodup : chs.Nodup)
    (w : World HvLists HvCall) : ∃ result w', goal.request channels bus w = (.ok result, w') ∧
      result.usedChannels = chs.filter (· ∈ w.state.okCh) ∧
      PowerWait.Partition bus goal chs w result w' ∧
      ∀ I, (∀ ch ∈ result.usedChannels, Elsewhere ch I) → I w → I w' := by
  cases goal with
  | on => exact PowerWait.switchAndWait_run (PowerWait.steps_on bus) hchs hnodup w
  | off => exact PowerWait.switchAndWait_run (PowerWait.steps_off bus) hchs hnodup w

/-- A request for a channel that does not exist raises before it does anything. -/
theorem PowerGoal.request_raises (bus : HvBus) (goal : PowerGoal) {channels : ChannelsArg}
    (h : ∃ ch ∈ channels.chList 7, ch < 1 ∨ 7 < ch) (w : World HvLists HvCall) :
    ∃ e, goal.request channels bus w = (.error e, w) := by
  obtain ⟨e, he⟩ := definition_of_invalid h
  have hraise : HV.channelsDefinition channels bus w = (.error e, w) := by
    unfold HV.channelsDefinition
    rw [he]
    rfl
  exact ⟨e, by cases goal <;> exact bind_of_error (bind_of_error hraise)⟩

/-- A request for channels that differ partitions them, or raises without having done anything when
one of them does not exist. -/
theorem onAndWait_offAndWait_partition (bus : HvBus) (goal : PowerGoal) (channels : ChannelsArg)
    (w : World HvLists HvCall) (hnodup : (channels.chList 7).Nodup) :
    Ends (PowerWait.Partition bus goal (channels.chList 7) w)
      (fun w' => w' = w ∧ ∃ ch ∈ channels.chList 7, ch < 1 ∨ 7 < ch)
      (goal.request channels bus w) := by
  by_cases hinvalid : ∃ ch ∈ channels.chList 7, ch < 1 ∨ 7 < ch
  · obtain ⟨e, hrun⟩ := goal.request_raises bus hinvalid w
    rw [hrun]
    exact ⟨rfl, hinvalid⟩
  · have hvalid : ∀ ch ∈ channels.chList 7, 1 ≤ ch ∧ ch ≤ 7 := fun ch hch => by
      by_contra hnot
      exact hinvalid ⟨ch, hch, by omega⟩
    obtain ⟨result, w', hrun, -, hpartition, -⟩ :=
      goal.request_run bus (definition_of_valid hvalid) hnodup w
    rw [hrun]
    exact hpartition

/-- Boards that come up, except for channel 2, which does not say how it is. -/
def risingBus : HvBus where
  answer
    | .getStatus 2, _ => .error "Modbus client is not connected"
    | .getStatus _, _ => .ok (0 : Nat)
    | c, n => answeringBus.answer c n
  rounds _ := 3

/-- Channel 3 is not OK. -/
theorem onAndWait_partition_rising : ([1, 2, 3] : List Int).Nodup ∧
    Ends (PowerWait.Partition risingBus .on [1, 2, 3] { state := { okCh := [1, 2] } })
      (fun w' => w' = { state := { okCh := [1, 2] } } ∧ ∃ ch ∈ [1, 2, 3], ch < 1 ∨ (7 : Int) < ch)
      (HV.onAndWait (.list [1, 2, 3]) risingBus { state := { okCh := [1, 2] } }) :=
  ⟨by decide, onAndWait_offAndWait_partition risingBus .on (.list [1, 2, 3])
    { state := { okCh := [1, 2] } } (by decide)⟩

end MultiDAQ.Client
