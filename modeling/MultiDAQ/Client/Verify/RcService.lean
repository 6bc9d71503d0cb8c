import MultiDAQ.Client.RcService
import MultiDAQ.Lib.Polling

/-!
# The reports of the configuration changes

The service reports a change of register 31 or 39 when it was made by `rc_write_register`, with the
old value that a read of its own returned. A command writes a tracked register at most once, and
`requestedWrite` is the value; what one request leaves in the registers and what it emits follow from
it (`step_registers`, `step_events`). The changes are reported as they should be exactly when no other
command changes a tracked register, and every tracked write that succeeds was preceded by a read that
did (`reportsCompletely_iff`).
-/

namespace MultiDAQ.Client

open MultiDAQ.Lib MultiDAQ.Lib.Interaction

def RcCall.addr : RcCall → Int
  | .read addr | .write addr _ => addr

/-- The old and the new value of an event. -/
def RcEvent.change (event : RcEvent) : Option Nat × PyVal := (event.oldValue, event.newValue)

namespace RC

variable {memory : RcMemory} {w : World RcState RcCall}

/-! ## One access -/

def setRegister (s : RcState) (addr value : Int) : RcState :=
  { s with registers := Function.update s.registers addr value.toNat }

/-- What a write can store: 32 bits in one of the registers. -/
def validWrite (addr value : Int) : Bool :=
  checkRegBoundary addr && (decide (0 ≤ value) && decide (value ≤ maxRegisterValue))

/-- Whether a write of the value to the register succeeds when it comes next. -/
def writeSucceeds (memory : RcMemory) (w : World RcState RcCall) (addr value : Int) : Bool :=
  validWrite addr value &&
    (memory.answer (.write addr value) (w.calls.count (.write addr value))).isOk

/-- Whether a read of the register succeeds when it comes next. -/
def readSucceeds (memory : RcMemory) (w : World RcState RcCall) (addr : Int) : Bool :=
  (memory.answer (.read addr) (w.calls.count (.read addr))).isOk

theorem writeBytes_run (w : World RcState RcCall) (addr value : Int) :
    ∃ w', writeBytes addr value memory w = (.ok (memory.answer (.write addr value)
        (w.calls.count (.write addr value))).isOk, w') ∧
      w'.state = (if (memory.answer (.write addr value)
        (w.calls.count (.write addr value))).isOk then setRegister w.state addr value
        else w.state) ∧
      w'.calls = w.calls ++ [.write addr value] := by
  cases ha : memory.answer (.write addr value) (w.calls.count (.write addr value)) with
  | ok a =>
    have hcall : (call (RcCall.write addr value) : RcM Unit) memory w =
        (.ok a, w.issue (.write addr value)) := by
      rw [call, ha]
    exact ⟨_, tryExcept_of_ok (bind_of_ok hcall), rfl, rfl⟩
  | error e =>
    have hcall : (call (RcCall.write addr value) : RcM Unit) memory w =
        (.error e, w.issue (.write addr value)) := by
      rw [call, ha]
    exact ⟨_, tryExcept_of_error (bind_of_error hcall), rfl, rfl⟩

/-- A write of an integer to a register of an integer address does not raise. -/
theorem write_run (memory : RcMemory) (w : World RcState RcCall) (addr value : Int) :
    ∃ w', write (.int addr) (.int value) memory w = (.ok (writeSucceeds memory w addr value), w') ∧
      w'.state = (if writeSucceeds memory w addr value then setRegister w.state addr value
        else w.state) ∧
      w'.calls = if validWrite addr value then w.calls ++ [.write addr value] else w.calls := by
  have hwrite : write (.int addr) (.int value) =
      (if checkRegBoundary addr then
        if 0 ≤ value ∧ value ≤ maxRegisterValue then writeBytes addr value else pure false
      else (pure false : RcM Bool)) := rfl
  rw [hwrite]
  unfold writeSucceeds validWrite
  by_cases haddr : checkRegBoundary addr = true
  · rw [if_pos haddr, haddr, Bool.true_and]
    by_cases hvalue : 0 ≤ value ∧ value ≤ maxRegisterValue
    · rw [if_pos hvalue, decide_eq_true hvalue.1, decide_eq_true hvalue.2]
      exact writeBytes_run w addr value
    · have hrange : (decide (0 ≤ value) && decide (value ≤ maxRegisterValue)) = false := by
        rwa [← Bool.decide_and, decide_eq_false_iff_not]
      rw [if_neg hvalue, hrange]
      exact ⟨w, rfl, rfl, rfl⟩
  · rw [if_neg haddr, Bool.eq_false_iff.2 haddr]
    exact ⟨w, rfl, rfl, rfl⟩

/-- The value of a write that is no integer leaves everything as it is. -/
theorem write_other_run (w : World RcState RcCall) {addr : Int} {value : PyVal}
    (hvalue : ∀ n, value ≠ .int n) : write (.int addr) value memory w = (.ok false, w) := by
  have hwrite : write (.int addr) value = (pure false : RcM Bool) := by
    show (if checkRegBoundary addr then _ else (pure false : RcM Bool)) = _
    cases value with
    | int n => exact absurd rfl (hvalue n)
    | str _ => exact ite_self _
    | other => exact ite_self _
  rw [hwrite]
  rfl

theorem read_run (memory : RcMemory) (w : World RcState RcCall) {addr : Int} (haddr : checkRegBoundary addr = true) :
    read (.int addr) memory w = (.ok (if readSucceeds memory w addr then
      some (w.state.registers addr) else none), w.issue (.read addr)) := by
  have hread : read (.int addr) = attempt (do
      call (RcCall.read addr)
      Interaction.read fun s : RcState => s.registers addr) (pure ()) := if_pos haddr
  rw [hread]
  unfold readSucceeds
  cases ha : memory.answer (.read addr) (w.calls.count (.read addr)) with
  | ok a =>
    have hcall : (call (RcCall.read addr) : RcM Unit) memory w =
        (.ok a, w.issue (.read addr)) := by
      rw [call, ha]
    exact tryExcept_of_ok (map_of_ok (bind_of_ok hcall))
  | error e =>
    have hcall : (call (RcCall.read addr) : RcM Unit) memory w =
        (.error e, w.issue (.read addr)) := by
      rw [call, ha]
    exact tryExcept_of_error (bind_of_error (bind_of_error hcall))

theorem nonneg_of_writeSucceeds {addr value : Int}
    (h : writeSucceeds memory w addr value = true) : 0 ≤ value := by
  unfold writeSucceeds validWrite at h
  simp only [Bool.and_eq_true, decide_eq_true_eq] at h
  exact h.1.2.1

/-- The outcome of a write depends on the writes of the same value to the same register before it. -/
theorem writeSucceeds_congr {w w' : World RcState RcCall} {addr value : Int}
    (h : w'.calls.count (.write addr value) = w.calls.count (.write addr value)) :
    writeSucceeds memory w' addr value = writeSucceeds memory w addr value := by
  unfold writeSucceeds
  rw [h]

/-! ## The registers an operation writes -/

/-- The assertion survives an access, and a write to a register in `A`. -/
structure Frame (I : World RcState RcCall → Prop) (A : Int → Prop) : Prop where
  issue : ∀ w c, I w → I (w.issue c)
  set : ∀ w addr value, A addr → I w → I (w.update fun s => setRegister s addr value)

theorem frame_register (r : Int) (x : Nat) :
    Frame (fun w => w.state.registers r = x) (· ≠ r) where
  issue _ _ h := h
  set _ _ _ hne h := (Function.update_of_ne hne.symm _ _).trans h

theorem frame_events (es : List RcEvent) :
    Frame (fun w => w.state.events = es) fun _ => True where
  issue _ _ h := h
  set _ _ _ _ h := h

section Frames

variable {I : World RcState RcCall → Prop} {A : Int → Prop} {α : Type}

theorem keeps_orRaise (e : Except String α) : Keeps memory I (orRaise e) := by
  cases e with
  | error e => exact keeps_raise e
  | ok a => exact keeps_pure a

theorem keeps_withMask {channels : ChannelsArg} {action : Nat → RcM Bool}
    (haction : ∀ mask, Keeps memory I (action mask)) :
    Keeps memory I (withMask channels action) := by
  refine keeps_bind (keeps_orRaise _) fun channelList => ?_
  split
  · exact keeps_pure _
  · split
    · exact keeps_pure _
    · exact keeps_bind (haction _) fun _ => keeps_pure _

namespace Frame

variable (hI : Frame I A)

include hI

theorem keeps_read (addr : PyVal) : Keeps memory I (RC.read addr) := by
  refine keeps_bind (keeps_orRaise _) fun a => ?_
  split
  · exact keeps_attempt (keeps_bind (keeps_call fun w => hI.issue w _) fun _ =>
      Interaction.keeps_read _) (keeps_pure _)
  · exact keeps_pure _

theorem keeps_write {addr value : PyVal} (haddr : ∀ a, addr = .int a → A a) :
    Keeps memory I (write addr value) := by
  refine keeps_bind (keeps_orRaise _) fun a => ?_
  split
  · split
    · next addr value =>
      split
      · exact keeps_try (keeps_bind (keeps_call fun w => hI.issue w _) fun _ =>
          keeps_bind (keeps_modify fun w => hI.set w addr value (haddr addr rfl)) fun _ =>
            keeps_pure _) fun _ => keeps_pure _
      · exact keeps_pure _
    · exact keeps_pure _
  · exact keeps_pure _

theorem keeps_writeInt {addr : Int} {value : PyVal} (haddr : A addr) :
    Keeps memory I (write (.int addr) value) :=
  hI.keeps_write fun a ha => by
    cases ha
    exact haddr

theorem keeps_reset (h0 : A 0) (h1 : A 1) (channels : ChannelsArg) :
    Keeps memory I (reset channels) := by
  refine keeps_withMask fun mask => keeps_bind (hI.keeps_read _) fun reg0 =>
    keeps_bind (hI.keeps_read _) fun reg1 => ?_
  split
  · exact keeps_bind (hI.keeps_writeInt h0) fun _ =>
      keeps_bind (hI.keeps_writeInt h1) fun _ => keeps_pure _
  · exact keeps_pure _

theorem keeps_boot (h0 : A 0) (h1 : A 1) (h17 : A 17) (channels : ChannelsArg) :
    Keeps memory I (boot channels) :=
  keeps_withMask fun _ => keeps_bind (hI.keeps_writeInt h17) fun _ =>
    keeps_bind (hI.keeps_writeInt h0) fun _ => keeps_bind (hI.keeps_writeInt h1) fun _ =>
      keeps_pure _

theorem keeps_start (h0 : A 0) (h1 : A 1) (h39 : A 39) (channels : ChannelsArg) :
    Keeps memory I (start channels) :=
  keeps_withMask fun _ => keeps_bind (hI.keeps_writeInt h1) fun _ =>
    keeps_bind (hI.keeps_writeInt h0) fun _ => keeps_bind (hI.keeps_writeInt h39) fun _ =>
      keeps_pure _

theorem keeps_febResetAfterFlash (h0 : A 0) (h1 : A 1) (h17 : A 17) :
    Keeps memory I febResetAfterFlash :=
  keeps_bind (hI.keeps_writeInt h1) fun _ => keeps_bind (hI.keeps_writeInt h0) fun _ =>
    keeps_bind (hI.keeps_writeInt h17) fun _ => keeps_pure _

theorem keeps_febSelectForAddressChange (h1 : A 1) (channels : ChannelsArg) :
    Keeps memory I (febSelectForAddressChange channels) := by
  refine keeps_bind (keeps_orRaise _) fun channelList => ?_
  split
  · split
    · exact keeps_bind (hI.keeps_writeInt h1) fun _ => keeps_pure _
    · exact keeps_pure _
  · exact keeps_pure _

theorem keeps_freeRateMonitoring (channels : ChannelsArg) :
    Keeps memory I (freeRateMonitoring channels) := by
  refine keeps_bind (keeps_orRaise _) fun channelList => ?_
  split
  · exact keeps_pure _
  · exact keeps_bind (hI.keeps_read _) fun _ =>
      keeps_bind (keeps_mapEach fun _ _ => hI.keeps_read _) fun _ => keeps_pure _

theorem keeps_trgRateMonitoring (channels : ChannelsArg) (includeTrgChannels : Bool) :
    Keeps memory I (trgRateMonitoring channels includeTrgChannels) := by
  refine keeps_bind (keeps_orRaise _) fun channelList => ?_
  split
  · exact keeps_pure _
  · refine keeps_bind (keeps_mapEach fun _ _ => hI.keeps_read _) fun _ => ?_
    split
    · exact keeps_bind (keeps_mapEach fun _ _ => hI.keeps_read _) fun _ => keeps_pure _
    · exact keeps_pure _

theorem keeps_monitorAllRates (channels : ChannelsArg) :
    Keeps memory I (monitorAllRates channels) := by
  refine keeps_bind (hI.keeps_read _) fun reg15 => ?_
  split
  · exact keeps_pure _
  · exact keeps_bind (hI.keeps_freeRateMonitoring channels) fun _ =>
      keeps_bind (hI.keeps_trgRateMonitoring channels _) fun _ => keeps_pure _

theorem keeps_setReg15 (h15 : A 15) (config : Reg15Config) : Keeps memory I (setReg15 config) := by
  unfold setReg15
  split
  · exact keeps_pure _
  · refine keeps_bind (hI.keeps_read _) fun previous => ?_
    split
    · exact keeps_pure _
    · exact hI.keeps_writeInt h15

theorem keeps_writeNormalized {addr : Int} (haddr : A addr) (normalized : Dict Int Int) :
    Keeps memory I (writeNormalized normalized addr) := by
  unfold writeNormalized
  split
  · exact keeps_pure _
  · exact keeps_map (hI.keeps_writeInt haddr)

theorem keeps_configureRegisters (horder : ∀ addr ∈ acqRegisterWriteOrder, A addr) (h15 : A 15)
    (rawRegisters : List (PyVal × PyVal)) (reg15Config : Option Reg15Config) :
    Keeps memory I (configureRegisters rawRegisters reg15Config) := by
  refine keeps_bind (keeps_mapEach fun addr haddr =>
    hI.keeps_writeNormalized (horder addr haddr) _) fun outcomes => ?_
  cases reg15Config with
  | none => exact keeps_pure _
  | some config => exact keeps_bind (hI.keeps_setReg15 h15 config) fun _ => keeps_pure _

theorem keeps_setAcqRegisters (horder : ∀ addr ∈ acqRegisterWriteOrder, A addr) (h15 : A 15)
    (rcAcqDict : DictArg RcAcqDict) : Keeps memory I (setAcqRegisters rcAcqDict) := by
  unfold setAcqRegisters
  split
  · exact keeps_pure _
  · split
    · exact keeps_pure _
    · split
      · exact hI.keeps_configureRegisters horder h15 _ _
      · exact hI.keeps_configureRegisters horder h15 _ _
      · exact keeps_pure _

end Frame

end Frames

/-! ## What a write leaves in a register -/

/-- The bits of the channels of an argument, where it is accepted. -/
def channelsMask (channels : ChannelsArg) : Option Nat :=
  match rcChannelsDefinition channels with
  | .error _ => none
  | .ok channelList => if channelList = [] then none else channelMask 0 channelList

/-- What the register holds after a request that writes `value?` to it, if anything. -/
def written (memory : RcMemory) (w : World RcState RcCall) (r : Int) : Option Int → Nat
  | some value => if writeSucceeds memory w r value then value.toNat else w.state.registers r
  | none => w.state.registers r

/-- A register, and the accesses to it so far. -/
def registerView (w : World RcState RcCall) (r : Int) : Nat × List RcCall :=
  (w.state.registers r, w.calls.filter (·.addr = r))

def viewWritten (memory : RcMemory) (w : World RcState RcCall) (r : Int) :
    Option Int → Nat × List RcCall
  | some value => (written memory w r (some value), if validWrite r value then
      (registerView w r).2 ++ [.write r value] else (registerView w r).2)
  | none => registerView w r

theorem viewWritten_fst (w : World RcState RcCall) (r : Int) (value? : Option Int) :
    (viewWritten memory w r value?).1 = written memory w r value? := by
  cases value? <;> rfl

theorem write_acts (memory : RcMemory) (w : World RcState RcCall) (addr value : Int) :
    Acts memory registerView addr (registerView w addr) (viewWritten memory w addr (some value))
      (writeSucceeds memory w addr value) (write (.int addr) (.int value)) := by
  intro w₁ hview
  have hcount : w₁.calls.count (.write addr value) = w.calls.count (.write addr value) := by
    have hfilter := congrArg (fun v : Nat × List RcCall => v.2.count (.write addr value)) hview
    dsimp only [registerView] at hfilter
    rwa [List.count_filter (by simp [RcCall.addr]), List.count_filter (by simp [RcCall.addr])]
      at hfilter
  obtain ⟨w', hrun, hstate, hcalls⟩ := write_run memory w₁ addr value
  rw [writeSucceeds_congr hcount] at hrun hstate
  have hregister : w₁.state.registers addr = w.state.registers addr := congrArg Prod.fst hview
  have haccesses : w₁.calls.filter (·.addr = addr) = w.calls.filter (·.addr = addr) :=
    congrArg Prod.snd hview
  refine ⟨w', hrun, Prod.ext ?_ ?_, fun r hr => Prod.ext ?_ ?_⟩
  · show w'.state.registers addr = written memory w addr (some value)
    rw [hstate, written]
    split
    · exact Function.update_self ..
    · exact hregister
  · show w'.calls.filter (·.addr = addr) =
      if validWrite addr value then w.calls.filter (·.addr = addr) ++ [.write addr value]
      else w.calls.filter (·.addr = addr)
    rw [hcalls, ← haccesses]
    split
    · simp [RcCall.addr]
    · rfl
  · show w'.state.registers r = w₁.state.registers r
    rw [hstate]
    split
    · exact Function.update_of_ne hr ..
    · rfl
  · show w'.calls.filter (·.addr = r) = w₁.calls.filter (·.addr = r)
    rw [hcalls]
    split
    · simp [RcCall.addr, hr.symm]
    · rfl

theorem writeNormalized_acts (w : World RcState RcCall) (normalized : Dict Int Int) (addr : Int) :
    Acts memory registerView addr (registerView w addr)
      (viewWritten memory w addr (normalized.get? addr))
      ((normalized.get? addr).map (writeSucceeds memory w addr)) (writeNormalized normalized addr) := by
  unfold writeNormalized
  cases normalized.get? addr with
  | none => exact fun w₁ hview => ⟨w₁, rfl, hview, fun _ _ => rfl⟩
  | some value =>
    intro w₁ hview
    obtain ⟨w', hrun, hself, hother⟩ := write_acts memory w addr value w₁ hview
    exact ⟨w', map_of_ok hrun, hself, hother⟩

/-- The registers of the configuration are written, each once. -/
theorem configureRegisters_registers (w : World RcState RcCall)
    (rawRegisters : List (PyVal × PyVal)) (reg15Config : Option Reg15Config) {r : Int}
    (hr : r ∈ acqRegisterWriteOrder) :
    (configureRegisters rawRegisters reg15Config memory w).2.state.registers r =
      written memory w r ((normalizeRegisters rawRegisters).1.get? r) := by
  unfold configureRegisters
  obtain ⟨normalized, failed⟩ := normalizeRegisters rawRegisters
  obtain ⟨w₁, hrun, hview⟩ := mapEach_acts
    (fun addr => viewWritten memory w addr (normalized.get? addr))
    (fun addr => (normalized.get? addr).map (writeSucceeds memory w addr))
    acqRegisterWriteOrder w (by decide) fun addr _ => writeNormalized_acts w normalized addr
  have hwritten : w₁.state.registers r = written memory w r (normalized.get? r) := by
    have hfst := congrArg Prod.fst (hview r)
    rw [if_pos hr, viewWritten_fst] at hfst
    exact hfst
  have hr15 : (15 : Int) ≠ r := by
    rintro rfl
    revert hr
    decide
  dsimp only
  rw [bind_of_ok hrun, ← hwritten]
  refine Keeps.world (I := fun w' : World RcState RcCall =>
    w'.state.registers r = w₁.state.registers r) ?_ rfl
  cases reg15Config with
  | none => exact keeps_pure _
  | some config =>
    exact keeps_bind ((frame_register r _).keeps_setReg15 hr15 config) fun _ => keeps_pure _

theorem withMask_world (channels : ChannelsArg) (action : Nat → RcM Bool)
    (w : World RcState RcCall) : (withMask channels action memory w).2 =
      (channelsMask channels).elim w fun mask => (action mask memory w).2 := by
  unfold withMask channelsMask
  cases rcChannelsDefinition channels with
  | error _ => rfl
  | ok channelList =>
    have hraise : orRaise (.ok channelList) memory w = (.ok channelList, w) := rfl
    rw [bind_of_ok hraise]
    dsimp only
    split
    · rfl
    · cases channelMask 0 channelList with
      | none => rfl
      | some mask => exact map_world

theorem start_register39 (channels : ChannelsArg) (w : World RcState RcCall) :
    (start channels memory w).2.state.registers 39 =
      written memory w 39 ((channelsMask channels).map fun mask => (mask : Int)) := by
  unfold start
  rw [withMask_world]
  cases channelsMask channels with
  | none => rfl
  | some mask =>
    obtain ⟨w₁, hrun₁, -, hother₁⟩ := write_acts memory w 1 mask w rfl
    obtain ⟨w₀, hrun₀, -, hother₀⟩ := write_acts memory w₁ 0 mask w₁ rfl
    obtain ⟨w₃₉, hrun₃₉, hself, -⟩ := write_acts memory w 39 mask w₀
      ((hother₀ 39 (by decide)).trans (hother₁ 39 (by decide)))
    dsimp only [Option.elim]
    rw [bind_of_ok hrun₁, bind_of_ok hrun₀, bind_of_ok hrun₃₉]
    exact (congrArg Prod.fst hself).trans (viewWritten_fst w 39 (some mask))

/-- The registers that `set_acq_registers` writes. -/
def acqRegisters : DictArg RcAcqDict → Dict Int Int
  | .other => Dict.empty
  | .dict config =>
    match config.registers, config.reg15 with
    | .other, _ => Dict.empty
    | .dict _, some .other => Dict.empty
    | .dict rawRegisters, _ => (normalizeRegisters rawRegisters).1

theorem setAcqRegisters_registers (w : World RcState RcCall) (rcAcqDict : DictArg RcAcqDict)
    {r : Int} (hr : r ∈ acqRegisterWriteOrder) :
    (setAcqRegisters rcAcqDict memory w).2.state.registers r =
      written memory w r ((acqRegisters rcAcqDict).get? r) := by
  match rcAcqDict with
  | .other => rfl
  | .dict ⟨.other, _⟩ => rfl
  | .dict ⟨.dict _, some .other⟩ => rfl
  | .dict ⟨.dict rawRegisters, none⟩ => exact configureRegisters_registers w rawRegisters none hr
  | .dict ⟨.dict rawRegisters, some (.dict config)⟩ =>
    exact configureRegisters_registers w rawRegisters (some config) hr

/-! ## The commands -/

/-- The registers a command may write. -/
def addresses : RcOperation → List Int
  | .rcAcqStart _ => [1, 0, 39]
  | .rcBoot _ | .rcFebResetAfterFlash => [17, 0, 1]
  | .rcReset _ => [0, 1]
  | .rcWriteRegister (some (.int address)) _ => [address]
  | .setRcAcq _ => acqRegisterWriteOrder ++ [15]
  | .rcFebSelectAddressChange _ => [1]
  | _ => []

/-- The value a command writes to a tracked register, if it writes one. -/
def requestedWrite : RcOperation → Int → Option Int
  | .rcAcqStart (some channels), r =>
    if r = 39 then (channelsMask channels).map fun mask => (mask : Int) else none
  | .rcWriteRegister (some (.int address)) (some (.int value)), r =>
    if r = address then some value else none
  | .setRcAcq (some rcAcqDict), r => (acqRegisters rcAcqDict).get? r
  | _, _ => none

section Commands

variable {I : World RcState RcCall → Prop} {A : Int → Prop}

theorem keeps_withChannels {channels : Option ChannelsArg} {action : ChannelsArg → RcM RcResult}
    (haction : ∀ channels, Keeps memory I (action channels)) :
    Keeps memory I (withChannels channels action) := by
  cases channels with
  | none => exact keeps_raise _
  | some channels => exact keeps_map (haction channels)

theorem Frame.keeps_readRegister (hI : Frame I A) (address : PyVal) :
    Keeps memory I (readRegister address) := by
  refine keeps_bind (hI.keeps_read address) fun value => ?_
  cases value with
  | none => exact keeps_pure _
  | some value => exact keeps_pure _

theorem Frame.keeps_readAcqRegisters (hI : Frame I A) (registers : List PyVal) :
    Keeps memory I (readAcqRegisters registers) :=
  keeps_bind (keeps_mapEach fun _ _ => hI.keeps_read _) fun _ => keeps_pure _

theorem Frame.keeps_commandWriteRegister (hI : Frame I A) {address : Option PyVal}
    (haddress : ∀ a, address = some (.int a) → A a) (value : Option PyVal) :
    Keeps memory I (commandWriteRegister address value) := by
  unfold commandWriteRegister
  split
  · exact keeps_map (keeps_bind (hI.keeps_write fun a ha => haddress a (congrArg some ha)) fun _ =>
      keeps_pure _)
  · exact keeps_pure _

/-- A command only writes the registers it is for. -/
theorem Frame.keeps_commandHandlers (hI : Frame I A) (command : RcOperation)
    (hA : ∀ addr ∈ addresses command, A addr) : Keeps memory I (commandHandlers command) := by
  cases command with
  | rcAcqStart channels =>
    obtain ⟨h1, h0, h39⟩ : A 1 ∧ A 0 ∧ A 39 := by simpa [addresses] using hA
    exact keeps_withChannels (hI.keeps_start h0 h1 h39)
  | rcBoot channels =>
    obtain ⟨h17, h0, h1⟩ : A 17 ∧ A 0 ∧ A 1 := by simpa [addresses] using hA
    exact keeps_withChannels (hI.keeps_boot h0 h1 h17)
  | rcReset channels =>
    obtain ⟨h0, h1⟩ : A 0 ∧ A 1 := by simpa [addresses] using hA
    exact keeps_withChannels (hI.keeps_reset h0 h1)
  | rcReadRegister address =>
    cases address with
    | none => exact keeps_pure _
    | some address => exact keeps_map (hI.keeps_readRegister address)
  | rcWriteRegister address value =>
    refine hI.keeps_commandWriteRegister (fun a ha => hA a ?_) value
    rw [ha]
    exact List.mem_singleton_self a
  | rcReadAcqRegisters rcAcqRegisters =>
    cases rcAcqRegisters with
    | none => exact keeps_pure _
    | some registers => exact keeps_map (hI.keeps_readAcqRegisters registers)
  | setRcAcq rcAcqDict =>
    cases rcAcqDict with
    | none => exact keeps_pure _
    | some rcAcqDict =>
      exact keeps_map (hI.keeps_setAcqRegisters (fun addr h => hA addr (List.mem_append_left _ h))
        (hA 15 (List.mem_append_right _ (List.mem_singleton_self _))) rcAcqDict)
  | rcFreeRateMonitoring channels => exact keeps_map (hI.keeps_freeRateMonitoring channels)
  | rcTrgRateMonitoring channels => exact keeps_map (hI.keeps_trgRateMonitoring channels _)
  | rcAllRateMonitoring channels => exact keeps_map (hI.keeps_monitorAllRates channels)
  | rcFebResetAfterFlash =>
    obtain ⟨h17, h0, h1⟩ : A 17 ∧ A 0 ∧ A 1 := by simpa [addresses] using hA
    exact keeps_map (hI.keeps_febResetAfterFlash h0 h1 h17)
  | rcFebSelectAddressChange channels =>
    exact keeps_withChannels (hI.keeps_febSelectForAddressChange (hA 1 (List.mem_singleton_self _)))
  | unknown => exact keeps_pure _

end Commands

/-- The state that `rc_write_register` leaves. -/
def writtenState (memory : RcMemory) (w : World RcState RcCall) (address : Int) :
    Option PyVal → RcState
  | some (.int value) =>
    if writeSucceeds memory w address value then setRegister w.state address value else w.state
  | _ => w.state

theorem writeSucceeds_issue_read (w : World RcState RcCall) (a addr value : Int) :
    writeSucceeds memory (w.issue (.read a)) addr value = writeSucceeds memory w addr value :=
  writeSucceeds_congr (by simp)

theorem writtenState_issue_read (w : World RcState RcCall) (a address : Int)
    (value : Option PyVal) :
    writtenState memory (w.issue (.read a)) address value = writtenState memory w address value := by
  match value with
  | none | some (.str _) | some .other => rfl
  | some (.int value) =>
    rw [writtenState, writtenState, writeSucceeds_issue_read]
    rfl

theorem writtenState_registers (w : World RcState RcCall) (address : Int) (value : Option PyVal)
    (r : Int) : (writtenState memory w address value).registers r =
      written memory w r (requestedWrite (.rcWriteRegister (some (.int address)) value) r) := by
  match value with
  | none | some (.str _) | some .other => rfl
  | some (.int value) =>
    by_cases hr : r = address
    · subst hr
      rw [requestedWrite, if_pos rfl, written, writtenState]
      split
      · exact Function.update_self ..
      · rfl
    · rw [requestedWrite, if_neg hr, written, writtenState]
      split
      · exact Function.update_of_ne hr ..
      · rfl

/-- `rc_write_register` with an address that is an integer. -/
theorem commandWriteRegister_run (memory : RcMemory) (w : World RcState RcCall) (address : Int) (value : Option PyVal) :
    ∃ w', commandWriteRegister (some (.int address)) value memory w =
        (.ok (makeResponse { success := match value with
          | some (.int n) => writeSucceeds memory w address n
          | _ => false }), w') ∧
      w'.state = writtenState memory w address value := by
  match value with
  | none => exact ⟨w, rfl, rfl⟩
  | some (.int n) =>
    obtain ⟨w', hrun, hstate, -⟩ := write_run memory w address n
    exact ⟨w', map_of_ok (bind_of_ok hrun), hstate⟩
  | some (.str int0) => exact ⟨w, map_of_ok (bind_of_ok (write_other_run w (by simp))), rfl⟩
  | some .other => exact ⟨w, map_of_ok (bind_of_ok (write_other_run w (by simp))), rfl⟩

/-- What a command leaves in a tracked register. -/
theorem commandHandlers_registers (w : World RcState RcCall) (command : RcOperation) {r : Int}
    (hr : r ∈ RcService.trackedConfigurationRegisters) :
    (commandHandlers command memory w).2.state.registers r =
      written memory w r (requestedWrite command r) := by
  have hkeeps (hA : ∀ addr ∈ addresses command, addr ≠ r) :
      (commandHandlers command memory w).2.state.registers r = written memory w r none :=
    ((frame_register r (w.state.registers r)).keeps_commandHandlers command hA).world rfl
  have hne : ∀ addr ∈ [(0 : Int), 1, 17], addr ≠ r := by
    have hapart : ∀ r ∈ RcService.trackedConfigurationRegisters, ∀ addr ∈ [(0 : Int), 1, 17],
        addr ≠ r := by decide
    exact hapart r hr
  cases command with
  | rcAcqStart channels =>
    cases channels with
    | none => rfl
    | some channels =>
      by_cases h39 : r = 39
      · subst h39
        exact (congrArg (fun w' : World RcState RcCall => w'.state.registers 39) map_world).trans
          (start_register39 channels w)
      · rw [requestedWrite, if_neg h39]
        exact hkeeps (by
          simpa [addresses] using ⟨hne 1 (by decide), hne 0 (by decide), Ne.symm h39⟩)
  | setRcAcq rcAcqDict =>
    cases rcAcqDict with
    | none => rfl
    | some rcAcqDict =>
      have horder : ∀ r ∈ RcService.trackedConfigurationRegisters, r ∈ acqRegisterWriteOrder := by
        decide
      exact (congrArg (fun w' : World RcState RcCall => w'.state.registers r) map_world).trans
        (setAcqRegisters_registers w rcAcqDict (horder r hr))
  | rcWriteRegister address value =>
    match address, value with
    | none, _ => exact hkeeps nofun
    | some (.str _), _ => exact hkeeps nofun
    | some .other, _ => exact hkeeps nofun
    | some (.int address), value =>
      obtain ⟨w', hrun, hstate⟩ := commandWriteRegister_run memory w address value
      show (commandWriteRegister (some (.int address)) value memory w).2.state.registers r = _
      rw [hrun, hstate, writtenState_registers]
  | rcBoot _ | rcFebResetAfterFlash =>
    exact hkeeps (by
      simpa [addresses] using ⟨hne 17 (by decide), hne 0 (by decide), hne 1 (by decide)⟩)
  | rcReset _ => exact hkeeps (by simpa [addresses] using ⟨hne 0 (by decide), hne 1 (by decide)⟩)
  | rcFebSelectAddressChange _ => exact hkeeps (by simpa [addresses] using hne 1 (by decide))
  | _ => exact hkeeps nofun

end RC

namespace RcService

open RC

variable {memory : RcMemory}

/-! ## One request -/

theorem trackedAddress_eq_some {command : RcOperation} {address : Int}
    (h : trackedAddress command = some address) : address ∈ trackedConfigurationRegisters ∧
      ∃ value, command = .rcWriteRegister (some (.int address)) value := by
  unfold trackedAddress at h
  split at h
  · split at h
    · next hmem =>
      cases h
      exact ⟨hmem, _, rfl⟩
    · cases h
  · cases h

/-- The value that the read before a tracked write returns. -/
def previousValue (memory : RcMemory) (w : World RcState RcCall) (address : Int) : Option Nat :=
  if readSucceeds memory w address then some (w.state.registers address) else none

theorem readConfigurationRegister_run (memory : RcMemory) (w : World RcState RcCall) {address : Int}
    (haddress : address ∈ trackedConfigurationRegisters) :
    readConfigurationRegister address memory w =
      (.ok (previousValue memory w address), w.issue (.read address)) := by
  have hbound : ∀ a ∈ trackedConfigurationRegisters, checkRegBoundary a = true := by decide
  have hread := read_run memory w (hbound address haddress)
  have hresponse : commandReadRegister (some (.int address)) memory w =
      (.ok (makeResponse ((previousValue memory w address).elim { success := false } fun value =>
        { success := true, value := some value })), w.issue (.read address)) := by
    refine map_of_ok ((bind_of_ok hread).trans ?_)
    unfold previousValue
    cases readSucceeds memory w address <;> rfl
  refine tryExcept_of_ok ((bind_of_ok hresponse).trans ?_)
  cases previousValue memory w address <;> rfl

theorem notifyConfigurationChange_run (memory : RcMemory) (w : World RcState RcCall) (rcRequest : RcRequest)
    {address : Int} (haddress : address ∈ trackedConfigurationRegisters) (oldValue : Option Nat)
    (newValue : PyVal) :
    notifyConfigurationChange rcRequest address oldValue newValue memory w =
      (.ok (), if sameValue oldValue newValue then w else w.update fun s => { s with
        events := s.events ++ [{
          register := address
          oldValue := oldValue
          newValue := newValue
          reason := rcRequest.sender
          sourceRequestId := rcRequest.requestId }] }) := by
  unfold notifyConfigurationChange onRcConfigurationChange
  rw [if_neg (not_not_intro haddress)]
  cases hsame : sameValue oldValue newValue with
  | true => rfl
  | false =>
    dsimp only
    rw [if_neg (by decide), if_neg (not_not_intro haddress)]
    rfl

/-- The events of a request. -/
def emitted (memory : RcMemory) (w : World RcState RcCall) (rcRequest : RcRequest) :
    List RcEvent :=
  match trackedAddress rcRequest.command, rcRequest.command with
  | some address, .rcWriteRegister _ (some (.int value)) =>
    if writeSucceeds memory w address value &&
        !sameValue (previousValue memory w address) (.int value) then [{
      register := address
      oldValue := previousValue memory w address
      newValue := .int value
      reason := rcRequest.sender
      sourceRequestId := rcRequest.requestId }]
    else []
  | _, _ => []

theorem step_untracked (w : World RcState RcCall) {rcRequest : RcRequest}
    (h : trackedAddress rcRequest.command = none) :
    step memory w rcRequest = (commandHandlers rcRequest.command memory w).2 := by
  unfold step executeResponse
  rw [tryExcept_pure_world, h]

theorem step_tracked (w : World RcState RcCall) (requestId : String) (sender : Option String)
    {address : Int} (haddress : address ∈ trackedConfigurationRegisters) (value : Option PyVal) :
    (step memory w ⟨requestId, .rcWriteRegister (some (.int address)) value, sender⟩).state =
      { writtenState memory w address value with
        events := w.state.events ++
          emitted memory w ⟨requestId, .rcWriteRegister (some (.int address)) value, sender⟩ } := by
  have htracked : trackedAddress (.rcWriteRegister (some (.int address)) value) = some address :=
    if_pos haddress
  have hread := readConfigurationRegister_run memory w haddress
  obtain ⟨w₁, hwrite, hstate⟩ := commandWriteRegister_run memory
    (w.issue (.read address)) address value
  unfold step executeResponse emitted
  rw [tryExcept_pure_world, htracked]
  dsimp only
  rw [bind_of_ok hread]
  match value with
  | none | some (.str _) | some .other =>
    rw [bind_of_ok hwrite]
    show w₁.state = _
    rw [hstate, List.append_nil]
    rfl
  | some (.int n) =>
    rw [writtenState_issue_read] at hstate
    dsimp only [writtenState] at hwrite hstate ⊢
    rw [writeSucceeds_issue_read] at hwrite
    cases hsucceeds : writeSucceeds memory w address n with
    | false =>
      rw [hsucceeds] at hwrite hstate
      rw [bind_of_ok hwrite]
      show w₁.state = { w.state with events := w.state.events ++ [] }
      rw [hstate, List.append_nil]
      rfl
    | true =>
      rw [hsucceeds] at hwrite hstate
      have hok : (makeResponse { success := true }).status = .ok := rfl
      have hnotify := notifyConfigurationChange_run memory w₁
        ⟨requestId, .rcWriteRegister (some (.int address)) (some (.int n)), sender⟩ haddress
        (previousValue memory w address) ((some (PyVal.int n)).getD .other)
      rw [bind_of_ok hwrite, Bool.true_and, if_pos hok, bind_of_ok hnotify, Option.getD_some]
      cases hsame : sameValue (previousValue memory w address) (.int n) with
      | true =>
        show w₁.state = { setRegister w.state address n with events := w.state.events ++ [] }
        rw [hstate, List.append_nil]
        rfl
      | false =>
        exact congrArg (fun s : RcState => { s with events := s.events ++ [
          (⟨address, previousValue memory w address, .int n, sender, requestId⟩ : RcEvent)] }) hstate

theorem step_registers (w : World RcState RcCall) (rcRequest : RcRequest) {r : Int}
    (hr : r ∈ trackedConfigurationRegisters) : (step memory w rcRequest).state.registers r =
      written memory w r (requestedWrite rcRequest.command r) := by
  cases htracked : trackedAddress rcRequest.command with
  | none =>
    rw [step_untracked w htracked]
    exact commandHandlers_registers w rcRequest.command hr
  | some address =>
    obtain ⟨requestId, command, sender⟩ := rcRequest
    obtain ⟨haddress, value, rfl⟩ := trackedAddress_eq_some htracked
    rw [step_tracked w requestId sender haddress value]
    exact writtenState_registers w address value r

theorem step_events (w : World RcState RcCall) (rcRequest : RcRequest) :
    (step memory w rcRequest).state.events = w.state.events ++ emitted memory w rcRequest := by
  cases htracked : trackedAddress rcRequest.command with
  | none =>
    have hemitted : emitted memory w rcRequest = [] := by
      unfold emitted
      rw [htracked]
    rw [step_untracked w htracked, hemitted, List.append_nil]
    exact ((frame_events w.state.events).keeps_commandHandlers rcRequest.command
      fun _ _ => trivial).world rfl
  | some address =>
    obtain ⟨requestId, command, sender⟩ := rcRequest
    obtain ⟨haddress, value, rfl⟩ := trackedAddress_eq_some htracked
    rw [step_tracked w requestId sender haddress value]

/-! ## The reports -/

/-- The step emits one event for every tracked register whose value it changes, with the old and
the new value, and no other. -/
def Reported (w w' : World RcState RcCall) : Prop :=
  ∃ events, w'.state.events = w.state.events ++ events ∧
    (∀ event ∈ events, event.register ∈ trackedConfigurationRegisters) ∧
    ∀ r ∈ trackedConfigurationRegisters, (events.filter (·.register = r)).map RcEvent.change =
      if w'.state.registers r = w.state.registers r then []
      else [(some (w.state.registers r), .int (w'.state.registers r))]

/-- What the events make of the values of the registers. -/
def replay (registers : Int → Nat) (events : List RcEvent) : Int → Nat :=
  events.foldl (fun registers event => match event.newValue with
    | .int value => Function.update registers event.register value.toNat
    | _ => registers) registers

/-- Every request of the run is reported as it should be, and the events of the run make of the
values of the tracked registers the values they hold in the end. -/
def ReportsCompletely (memory : RcMemory) (w : World RcState RcCall) (requests : List RcRequest) :
    Prop :=
  Meets (step memory) (fun w rcRequest => Reported w (step memory w rcRequest)) w requests ∧
  ∃ events, (run (step memory) w requests).state.events = w.state.events ++ events ∧
    ∀ r ∈ trackedConfigurationRegisters, replay w.state.registers events r =
      (run (step memory) w requests).state.registers r

/-- A write of a tracked register that gets through is one of `rc_write_register` whose read got
through too, or it leaves the value as it is. -/
def Covered (memory : RcMemory) (w : World RcState RcCall) (rcRequest : RcRequest) : Prop :=
  ∀ r ∈ trackedConfigurationRegisters, ∀ value, requestedWrite rcRequest.command r = some value →
    writeSucceeds memory w r value = true →
    if trackedAddress rcRequest.command = some r then readSucceeds memory w r = true
    else (w.state.registers r : Int) = value

theorem emitted_register (w : World RcState RcCall) (rcRequest : RcRequest) :
    ∀ event ∈ emitted memory w rcRequest, trackedAddress rcRequest.command = some event.register ∧
      requestedWrite rcRequest.command event.register ≠ none := by
  obtain ⟨requestId, command, sender⟩ := rcRequest
  intro event hevent
  cases htracked : trackedAddress command with
  | none =>
    unfold emitted at hevent
    rw [htracked] at hevent
    cases hevent
  | some address =>
    obtain ⟨-, value, rfl⟩ := trackedAddress_eq_some htracked
    unfold emitted at hevent
    rw [htracked] at hevent
    match value with
    | none | some (.str _) | some .other => cases hevent
    | some (.int n) =>
      dsimp only at hevent
      split at hevent
      · rw [List.mem_singleton.1 hevent]
        exact ⟨rfl, by simp [requestedWrite]⟩
      · cases hevent

theorem emitted_filter_eq_nil (w : World RcState RcCall) (rcRequest : RcRequest) {r : Int}
    (h : trackedAddress rcRequest.command = some r → requestedWrite rcRequest.command r = none) :
    (emitted memory w rcRequest).filter (·.register = r) = [] := by
  refine List.filter_eq_nil_iff.2 fun event hevent hregister => ?_
  obtain ⟨htracked, hvalue⟩ := emitted_register w rcRequest event hevent
  rw [of_decide_eq_true hregister] at htracked hvalue
  exact hvalue (h htracked)

/-- What is said of the register `r` by the request: at most one thing. -/
theorem emitted_filter (w : World RcState RcCall) (rcRequest : RcRequest) {r : Int} {value : Int}
    (htracked : trackedAddress rcRequest.command = some r)
    (hvalue : requestedWrite rcRequest.command r = some value) :
    ((emitted memory w rcRequest).filter (·.register = r)).map RcEvent.change =
      if writeSucceeds memory w r value && !sameValue (previousValue memory w r) (.int value) then
        [(previousValue memory w r, .int value)] else [] := by
  obtain ⟨requestId, command, sender⟩ := rcRequest
  obtain ⟨hr, value', rfl⟩ := trackedAddress_eq_some htracked
  match value' with
  | none | some (.str _) | some .other => cases hvalue
  | some (.int n) =>
    obtain rfl : n = value := by simpa [requestedWrite] using hvalue
    unfold emitted
    rw [htracked]
    dsimp only
    split
    · simp [RcEvent.change]
    · rfl

theorem reported_step_iff (w : World RcState RcCall) (rcRequest : RcRequest) :
    Reported w (step memory w rcRequest) ↔ Covered memory w rcRequest := by
  have hevents : Reported w (step memory w rcRequest) ↔
      ∀ r ∈ trackedConfigurationRegisters,
        ((emitted memory w rcRequest).filter (·.register = r)).map RcEvent.change =
          if written memory w r (requestedWrite rcRequest.command r) = w.state.registers r then []
          else [(some (w.state.registers r),
            .int (written memory w r (requestedWrite rcRequest.command r)))] := by
    constructor
    · rintro ⟨events, happend, -, hchanges⟩ r hr
      rw [step_events] at happend
      rw [← step_registers w rcRequest hr, List.append_cancel_left happend]
      exact hchanges r hr
    · refine fun hchanges => ⟨_, step_events w rcRequest, fun event hevent => ?_, fun r hr => ?_⟩
      · exact (trackedAddress_eq_some (emitted_register w rcRequest event hevent).1).1
      · rw [step_registers w rcRequest hr]
        exact hchanges r hr
  rw [hevents]
  refine forall₂_congr fun r hr => ?_
  cases hvalue : requestedWrite rcRequest.command r with
  | none =>
    rw [emitted_filter_eq_nil w rcRequest fun _ => hvalue]
    simp [written]
  | some value =>
    cases hsucceeds : writeSucceeds memory w r value with
    | false =>
      have hwritten : written memory w r (some value) = w.state.registers r := by
        rw [written, hsucceeds]
        rfl
      have hnothing : ((emitted memory w rcRequest).filter (·.register = r)).map
          RcEvent.change = [] := by
        by_cases htracked : trackedAddress rcRequest.command = some r
        · rw [emitted_filter w rcRequest htracked hvalue, hsucceeds]
          rfl
        · rw [emitted_filter_eq_nil w rcRequest fun h => absurd h htracked]
          rfl
      rw [hwritten, hnothing, if_pos rfl]
      refine iff_of_true rfl fun v hv hsucceeds' => ?_
      cases hv
      rw [hsucceeds] at hsucceeds'
      cases hsucceeds'
    | true =>
      obtain ⟨n, rfl⟩ := Int.eq_ofNat_of_zero_le (nonneg_of_writeSucceeds hsucceeds)
      have hwritten : written memory w r (some (n : Int)) = n := if_pos hsucceeds
      rw [hwritten]
      by_cases htracked : trackedAddress rcRequest.command = some r
      · rw [emitted_filter w rcRequest htracked hvalue]
        cases hread : readSucceeds memory w r with
        | true =>
          have hright : (if w.state.registers r = n then []
              else [(some (w.state.registers r), PyVal.int n)]) =
              if n = w.state.registers r then [] else [(some (w.state.registers r), .int n)] :=
            if_congr eq_comm rfl rfl
          simpa [hsucceeds, htracked, hread, previousValue, sameValue] using hright
        | false =>
          -- The event has no old value, whether the write changes the register or not.
          have hwrong : [((none : Option Nat), PyVal.int n)] ≠ if n = w.state.registers r then []
              else [(some (w.state.registers r), PyVal.int n)] := by
            split <;> simp
          simpa [hsucceeds, htracked, hread, previousValue, sameValue] using hwrong
      · rw [emitted_filter_eq_nil w rcRequest fun h => absurd h htracked]
        simpa [hsucceeds, htracked] using eq_comm

/-! ## Runs -/

theorem replay_apply (registers : Int → Nat) (events : List RcEvent) (r : Int) :
    replay registers events r = ((events.filter (·.register = r)).map RcEvent.change).foldl
      (fun x change => match change.2 with
        | .int value => value.toNat
        | _ => x) (registers r) := by
  induction events generalizing registers with
  | nil => rfl
  | cons event events ih =>
    rw [replay, List.foldl_cons, ← replay, ih]
    obtain ⟨register, oldValue, newValue, _, _⟩ := event
    by_cases hr : register = r
    · subst hr
      cases newValue <;> simp [RcEvent.change]
    · cases newValue <;> simp [hr, Function.update_of_ne (Ne.symm hr)]

theorem Reported.replay {w w' : World RcState RcCall} (h : Reported w w') :
    ∃ events, w'.state.events = w.state.events ++ events ∧
      ∀ r ∈ trackedConfigurationRegisters,
        RcService.replay w.state.registers events r = w'.state.registers r := by
  obtain ⟨events, happend, -, hchanges⟩ := h
  refine ⟨events, happend, fun r hr => ?_⟩
  rw [replay_apply, hchanges r hr]
  split
  · next heq => exact heq.symm
  · exact Int.toNat_natCast _

theorem meets_reported_replay (w : World RcState RcCall) (requests : List RcRequest)
    (h : Meets (step memory) (fun w rcRequest => Reported w (step memory w rcRequest)) w requests) :
    ∃ events, (run (step memory) w requests).state.events = w.state.events ++ events ∧
      ∀ r ∈ trackedConfigurationRegisters, replay w.state.registers events r =
        (run (step memory) w requests).state.registers r := by
  induction requests generalizing w with
  | nil => exact ⟨[], (List.append_nil _).symm, fun _ _ => rfl⟩
  | cons rcRequest requests ih =>
    obtain ⟨events₁, happend₁, hreplay₁⟩ := h.1.replay
    obtain ⟨events₂, happend₂, hreplay₂⟩ := ih _ h.2
    refine ⟨events₁ ++ events₂, ?_, fun r hr => ?_⟩
    · rw [run_cons, happend₂, happend₁, List.append_assoc]
    · rw [run_cons, ← hreplay₂ r hr, replay_apply, replay_apply, List.filter_append,
        List.map_append, List.foldl_append, ← replay_apply, hreplay₁ r hr]

/-- The changes of a run are reported completely exactly when every request of it is covered. -/
theorem reportsCompletely_iff (memory : RcMemory) (w : World RcState RcCall)
    (requests : List RcRequest) :
    ReportsCompletely memory w requests ↔ Meets (step memory) (Covered memory) w requests := by
  have hmeets : Meets (step memory) (fun w rcRequest => Reported w (step memory w rcRequest)) w
      requests ↔ Meets (step memory) (Covered memory) w requests := by
    rw [meets_iff_forall, meets_iff_forall]
    simp only [reported_step_iff]
  exact ⟨fun h => hmeets.1 h.1, fun h => ⟨hmeets.2 h, meets_reported_replay w requests (hmeets.2 h)⟩⟩

/-! ## A start of the channels -/

/-- A memory without failures. -/
def workingMemory : RcMemory := { answer := fun _ _ => .ok (), rounds := fun _ => 0 }

/-- `rc_acq_start` enables the seven channels in register 39, and nothing is said of it. -/
theorem not_reportsCompletely_start :
    ¬ ReportsCompletely workingMemory { state := { registers := fun _ => 0 } }
      [{ requestId := "acquisition_rc_acq_start", command := .rcAcqStart (some .all),
         sender := some "control_manager" }] := by
  intro h
  obtain ⟨events, happend, hreplay⟩ := h.2
  have hnone : events = [] := by
    rw [run_cons, run_nil, step_events] at happend
    exact (List.append_cancel_left happend).symm
  have h39 := hreplay 39 (by decide)
  rw [hnone] at h39
  revert h39
  decide +kernel

end RcService

end MultiDAQ.Client
