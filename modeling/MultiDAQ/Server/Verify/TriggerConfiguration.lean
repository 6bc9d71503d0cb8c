import Mathlib.Tactic.IntervalCases
import MultiDAQ.Client.Verify.AcqRegisters
import MultiDAQ.Lib.Conversion
import MultiDAQ.Server.TriggerConfiguration
import MultiDAQ.Server.Verify.ChannelNotation

/-!
# A trigger and its registers

A configuration that the server builds satisfies `TriggerConfiguration.Valid`, and what
`decodeTrigger` reads in the registers made of it is the configuration. But window and delay are only
checked to be multiples of 5 ns: one of more than 2³² units is put into the request, which the client
then carries out in part. The client takes the whole request exactly when both fit
(`trigger_registers_accepted_iff`).
-/

namespace MultiDAQ.Server

open MultiDAQ.Lib MultiDAQ.Lib.Interaction
open MultiDAQ.Client (PyVal RcCall RcResult RcState Reg15Config mem_sorted sorted sortedLT_sorted)
open MultiDAQ.Client.RC

/-! ## Bits -/

theorem testBit_bitIf (condition : Bool) (bit n : Nat) :
    (bitIf condition bit).testBit n = (condition && decide (n = bit)) := by
  unfold bitIf
  cases condition with
  | false => exact Nat.zero_testBit n
  | true => exact testBit_one_shiftLeft bit n

/-- A bit that is asked for by a mask. -/
theorem and_shiftLeft_ne_zero {x n : Nat} : x &&& 1 <<< n ≠ 0 ↔ x.testBit n = true := by
  rw [Nat.one_shiftLeft, Nat.and_two_pow]
  cases x.testBit n with
  | false => simp
  | true => simp

/-- The channels whose bit is set. -/
def decodeChannels (x : Nat) : List Int := ((List.range 7).filter x.testBit).map Int.ofNat

/-- The bits of the channels of the run control give the channels back. -/
theorem decodeChannels_eq {channels : List Int} (hsorted : channels.SortedLT)
    (hrange : ∀ ch ∈ channels, 0 ≤ ch ∧ ch < 7) {x : Nat}
    (hx : ∀ n < 7, x.testBit n = true ↔ n ∈ channelBits channels) :
    decodeChannels x = channels := by
  have hbits : (decodeChannels x).SortedLT := by
    refine List.Pairwise.sortedLT (List.pairwise_map.2 ?_)
    exact (List.pairwise_lt_range.filter _).imp fun h => Int.ofNat_lt.2 h
  refine hbits.eq_of_mem_iff hsorted fun ch => ?_
  unfold decodeChannels
  simp only [List.mem_map, List.mem_filter, List.mem_range]
  constructor
  · rintro ⟨n, ⟨hn, hbit⟩, rfl⟩
    obtain ⟨ch, hch, rfl⟩ := List.mem_map.1 ((hx n hn).1 hbit)
    have hnat : Int.ofNat ch.toNat = ch := Int.toNat_of_nonneg (hrange ch hch).1
    rwa [hnat]
  · intro hch
    obtain ⟨hlow, hhigh⟩ := hrange ch hch
    have hn : ch.toNat < 7 := by omega
    exact ⟨ch.toNat, ⟨hn, (hx _ hn).2 (List.mem_map_of_mem hch)⟩, Int.toNat_of_nonneg hlow⟩

/-! ## Channels -/

theorem rcChannel?_eq_some {channel ch : Int} :
    rcChannel? channel = some ch ↔ channel = ch ∧ 0 ≤ ch ∧ ch < 7 := by
  unfold rcChannel?
  split
  next h =>
    refine ⟨nofun, ?_⟩
    rintro ⟨rfl, h0, h7⟩
    omega
  next h =>
    rw [Option.some.injEq]
    refine ⟨?_, And.left⟩
    rintro rfl
    omega

/-- Channels of the run control, in order and each once. -/
structure RcChannels (channels : List Int) : Prop where
  sorted : channels.SortedLT
  range : ∀ ch ∈ channels, 0 ≤ ch ∧ ch < 7

theorem rcChannels_sorted {values : List Int} (h : ∀ ch ∈ values, 0 ≤ ch ∧ ch < 7) :
    RcChannels (sorted (fromkeys values)) where
  sorted := sortedLT_sorted (nodup_fromkeys values)
  range ch hch := h ch (mem_fromkeys.1 ((mem_sorted _ _).1 hch))

theorem rcChannels_normalized {effectiveChannels channels : List Int}
    (h : normalizedChannels effectiveChannels = some channels) : RcChannels channels := by
  unfold normalizedChannels at h
  split at h
  · cases h
  · obtain ⟨values, hvalues, rfl⟩ := Option.map_eq_some_iff.1 h
    exact rcChannels_sorted
      ((mapM_eq_some_iff_of_form (g := id) fun _ _ => rcChannel?_eq_some).1 hvalues).2

theorem rcChannels_auto {rawChannels : List Char} {channels : List Int}
    (h : parseAutoChannels rawChannels = some channels) : RcChannels channels ∧ channels ≠ [] := by
  unfold parseAutoChannels at h
  dsimp only at h
  split at h
  · cases h
  next values hvalues =>
    split at h
    · cases h
    next hne =>
      cases h
      have hrange : ∀ ch ∈ values, 0 ≤ ch ∧ ch < 7 := by
        intro ch hch
        rw [mapM_eq_some_iff] at hvalues
        obtain ⟨item, -, hitem⟩ := List.mem_map.1 (hvalues ▸ List.mem_map_of_mem hch)
        obtain ⟨channel, -, hchannel⟩ := Option.bind_eq_some_iff.1 hitem
        exact (rcChannel?_eq_some.1 hchannel).2
      refine ⟨rcChannels_sorted hrange, fun hnil => ?_⟩
      obtain ⟨ch, hch⟩ := List.exists_mem_of_ne_nil _ hne
      exact List.not_mem_nil (hnil ▸ (mem_sorted _ _).2 (mem_fromkeys.2 hch))

/-! ## The configurations that are built -/

/-- How the channels are combined to a trigger of the server's own. -/
inductive TriggerConfiguration.ValidLogic (c : TriggerConfiguration) : Prop
  | majority (logic : c.autoLogic = some .majority) (m : Nat) (low : 1 ≤ m) (high : m ≤ 7)
      (multiplicity : c.multiplicity = some (m : Int)) (channels : c.autoChannels = none)
  | exact (logic : c.autoLogic = some .exact) (multiplicity : c.multiplicity = none)
      (chs : List Int) (valid : RcChannels chs) (channels : c.autoChannels = some chs)

structure TriggerConfiguration.Valid (c : TriggerConfiguration) : Prop where
  timing : if c.mode = .self then c.windowNs = 0 ∧ c.delayNs = 0
    else validTiming c.windowNs c.delayNs = true
  input : c.mode ≠ .external → c.inputType = .differential ∧ c.polarity = .default
  logic : if c.mode = .auto then c.ValidLogic
    else c.autoLogic = none ∧ c.multiplicity = none ∧ c.autoChannels = none

/-- What is built is valid, and has the window and the delay of the arguments unless the acquisition
has no trigger. -/
theorem buildTriggerConfiguration_spec {args : TriggerArgs} {c : TriggerConfiguration}
    (h : buildTriggerConfiguration args = some c) : c.Valid ∧
      if args.triggerMode = "self" then c.windowNs = 0 ∧ c.delayNs = 0
      else c.windowNs = args.windowNs ∧ c.delayNs = args.delayNs := by
  unfold buildTriggerConfiguration at h
  have hself : TriggerMode.ofText? args.triggerMode = some .self ↔ args.triggerMode = "self" := by
    unfold TriggerMode.ofText?
    split_ifs with h1 h2 h3 <;> simp [h1]
  split at h
  · cases h
  next hmode =>
    cases h
    rw [if_pos (hself.1 hmode)]
    exact ⟨⟨⟨rfl, rfl⟩, fun _ => ⟨rfl, rfl⟩, ⟨rfl, rfl, rfl⟩⟩, rfl, rfl⟩
  next mode hne hmode =>
    have hnot : args.triggerMode ≠ "self" := fun htext =>
      hne (Option.some.inj (hmode.symm.trans (hself.2 htext)))
    rw [if_neg hnot]
    split at h
    · cases h
    next htiming =>
      rw [Bool.not_eq_true', Bool.not_eq_false] at htiming
      split at h
      next =>
        unfold externalTrigger at h
        obtain ⟨inputType, -, h⟩ := Option.bind_eq_some_iff.1 h
        obtain ⟨polarity, -, h⟩ := Option.bind_eq_some_iff.1 h
        cases h
        exact ⟨⟨htiming, fun hexternal => absurd rfl hexternal, ⟨rfl, rfl, rfl⟩⟩, rfl, rfl⟩
      next =>
        split at h
        · cases h
        · split at h
          · cases h
          next m hm =>
            split at h
            · cases h
            next hrange =>
              cases h
              have hm' : ((m.toNat : Nat) : Int) = m := Int.toNat_of_nonneg (by omega)
              exact ⟨⟨htiming, fun _ => ⟨rfl, rfl⟩, .majority rfl m.toNat (by omega) (by omega)
                (congrArg some hm'.symm) rfl⟩, rfl, rfl⟩
        · obtain ⟨rawChannels, -, h⟩ := Option.bind_eq_some_iff.1 h
          obtain ⟨autoChannels, hchannels, h⟩ := Option.bind_eq_some_iff.1 h
          cases h
          exact ⟨⟨htiming, fun _ => ⟨rfl, rfl⟩, .exact rfl rfl autoChannels
            (rcChannels_auto hchannels).1 rfl⟩, rfl, rfl⟩

/-! ## The registers read back -/

def decodeMode (reg15 : Nat) : TriggerMode :=
  if reg15.testBit 1 then if reg15.testBit 4 then .auto else .external else .self

/-- The configuration that the registers stand for. -/
def decodeTrigger (registers : Int → Nat) : TriggerConfiguration :=
  let reg15 := registers 15
  let auto := if decodeMode reg15 = .auto then some (decodeAutoTriggerConfig (registers 31)) else none
  { mode := decodeMode reg15
    inputType := if reg15.testBit 7 then .singleEnded else .differential
    polarity := if reg15.testBit 8 then .inverted else .default
    windowNs := 5 * registers 16
    delayNs := 5 * registers 18
    autoLogic := auto.map fun
      | .majority _ => .majority
      | .exact _ => .exact
    multiplicity := auto.bind fun
      | .majority threshold => some threshold
      | .exact _ => none
    autoChannels := auto.bind fun
      | .majority _ => none
      | .exact channels => some (channels.map Int.ofNat)
    saveExternal := (registers 19).testBit 7
    saveAuto := (registers 19).testBit 8 }

/-- What a request for the trigger leaves in the registers. -/
structure Written (r : TriggerRegisters) (registers : Int → Nat) : Prop where
  reg15 : ∃ previous : Nat, registers 15 =
    previous.ldiff r.reg15Mask ||| (r.reg15Value &&& r.reg15Mask)
  others : ∀ e ∈ r.registers, (registers e.1 : Int) = e.2

section Decode

variable {c : TriggerConfiguration} {effectiveChannels normalized : List Int}
  {r : TriggerRegisters} {registers : Int → Nat} {reg31 : Nat}

/-- The registers of a configuration. -/
theorem buildTriggerRegisters_eq_some (h : buildTriggerRegisters c effectiveChannels = some r) :
    ∃ normalized reg16 reg18 reg31, normalizedChannels effectiveChannels = some normalized ∧
      timingRegisters c = some (reg16, reg18) ∧ reg31Value c normalized = some reg31 ∧
      r = {
        reg15Mask := triggerReg15Mask
        reg15Value := reg15Value c
        registers := [(16, reg16), (18, reg18),
          (19, (setBits 0 (channelBits normalized) ||| bitIf c.saveExternal 7 |||
            bitIf c.saveAuto 8 : Nat)),
          (31, (reg31 : Nat)),
          (39, (setBits 0 (channelBits normalized) ||| bitIf (c.mode ≠ .self) 7 |||
            bitIf (c.mode ≠ .self) 8 : Nat))] } := by
  unfold buildTriggerRegisters at h
  obtain ⟨normalized, hnormalized, h⟩ := Option.bind_eq_some_iff.1 h
  obtain ⟨⟨reg16, reg18⟩, htiming, h⟩ := Option.bind_eq_some_iff.1 h
  obtain ⟨reg31, hreg31, h⟩ := Option.bind_eq_some_iff.1 h
  cases h
  exact ⟨normalized, reg16, reg18, reg31, hnormalized, htiming, hreg31, rfl⟩

/-- The trigger bits of register 15. -/
theorem testBit_reg15 {previous : Nat} (h : registers 15 =
      previous.ldiff triggerReg15Mask ||| (reg15Value c &&& triggerReg15Mask))
    {n : Nat} (hn : triggerReg15Mask.testBit n = true) :
    (registers 15).testBit n = (reg15Value c).testBit n := by
  rw [h, Nat.testBit_or, Nat.testBit_ldiff, Nat.testBit_and, hn]
  simp

theorem decodeMode_eq (h : ∀ n, triggerReg15Mask.testBit n = true →
    (registers 15).testBit n = (reg15Value c).testBit n) : decodeMode (registers 15) = c.mode := by
  unfold decodeMode
  rw [h 1 (by decide), h 4 (by decide)]
  unfold reg15Value
  simp only [Nat.testBit_or, testBit_bitIf]
  cases c.mode <;> simp

theorem decode_input (hvalid : c.Valid) (h : ∀ n, triggerReg15Mask.testBit n = true →
    (registers 15).testBit n = (reg15Value c).testBit n) :
    (if (registers 15).testBit 7 then TriggerInput.singleEnded else .differential) = c.inputType ∧
      (if (registers 15).testBit 8 then TriggerPolarity.inverted else .default) = c.polarity := by
  rw [h 7 (by decide), h 8 (by decide)]
  unfold reg15Value
  simp only [Nat.testBit_or, testBit_bitIf]
  by_cases hmode : c.mode = .external
  · rw [hmode]
    cases c.inputType <;> cases c.polarity <;> decide
  · obtain ⟨hinput, hpolarity⟩ := hvalid.input hmode
    rw [hinput, hpolarity]
    cases c.mode <;> decide

/-- Register 31 of a majority. -/
theorem decode_majority {m : Nat} (hlow : 1 ≤ m) (hhigh : m ≤ 7) :
    decodeAutoTriggerConfig (setBits 0 (List.range m)) = .majority m := by
  interval_cases m <;> simp [decodeAutoTriggerConfig, setBits, rcReg31ModeBit, rcReg31ChannelMask,
    List.range_succ]

/-- Register 31 of an exact combination. -/
theorem decode_exact {channels : List Int} (h : RcChannels channels) :
    ∃ chs, decodeAutoTriggerConfig (setBits (1 <<< 7) (channelBits channels)) = .exact chs ∧
      chs.map Int.ofNat = channels := by
  have hbit (n : Nat) : (setBits (1 <<< 7) (channelBits channels)).testBit n = true ↔
      n = 7 ∨ n ∈ channelBits channels := by
    rw [testBit_setBits, testBit_one_shiftLeft, decide_eq_true_eq]
  unfold decodeAutoTriggerConfig rcReg31ModeBit
  rw [if_pos (and_shiftLeft_ne_zero.2 ((hbit 7).2 (.inl rfl)))]
  refine ⟨_, rfl, ?_⟩
  have hmask : ∀ n < 7, rcReg31ChannelMask.testBit n = true := by decide
  have hfilter : ((List.range 7).filter fun ch => setBits (1 <<< 7) (channelBits channels) &&&
      rcReg31ChannelMask &&& 1 <<< ch ≠ 0) =
      (List.range 7).filter (setBits (1 <<< 7) (channelBits channels)).testBit := by
    refine List.filter_congr fun n hn => ?_
    rw [Bool.eq_iff_iff, decide_eq_true_iff, and_shiftLeft_ne_zero, Nat.testBit_and,
      hmask n (List.mem_range.1 hn), Bool.and_true]
  rw [hfilter]
  refine decodeChannels_eq h.sorted h.range fun n hn => ?_
  rw [hbit n]
  exact or_iff_right (by omega)

/-- The part of `decodeTrigger` that is about the logic of the server's own trigger. -/
theorem decode_logic (hvalid : c.Valid) (h31 : reg31Value c normalized = some reg31) :
    let auto := if c.mode = .auto then some (decodeAutoTriggerConfig reg31) else none
    (auto.map fun
        | .majority _ => AutoLogic.majority
        | .exact _ => .exact) = c.autoLogic ∧
      (auto.bind fun
        | .majority threshold => some (threshold : Int)
        | .exact _ => none) = c.multiplicity ∧
      (auto.bind fun
        | .majority _ => none
        | .exact channels => some (channels.map Int.ofNat)) = c.autoChannels := by
  have hlogic := hvalid.logic
  unfold reg31Value at h31
  dsimp only
  by_cases hmode : c.mode = .auto
  · rw [if_pos hmode] at hlogic ⊢
    rw [if_neg (not_not.2 hmode)] at h31
    cases hlogic with
    | majority hmajority m hlow hhigh hmultiplicity hchannels =>
      rw [hmajority, hmultiplicity] at h31
      dsimp only at h31
      rw [if_neg (by omega)] at h31
      split at h31
      · cases h31
      · cases h31
        rw [hmajority, hmultiplicity, hchannels, Int.toNat_natCast, decode_majority hlow hhigh]
        exact ⟨rfl, rfl, rfl⟩
    | exact hexact hmultiplicity chs hchs hchannels =>
      rw [hexact, hchannels] at h31
      dsimp only [Option.getD_some] at h31
      obtain ⟨decoded, hdecoded, hmap⟩ := decode_exact hchs
      split at h31
      · cases h31
      · split at h31
        · cases h31
        · cases h31
          rw [hexact, hmultiplicity, hchannels, hdecoded]
          exact ⟨rfl, rfl, congrArg some hmap⟩
  · rw [if_neg hmode] at hlogic ⊢
    exact ⟨hlogic.1.symm, hlogic.2.1.symm, hlogic.2.2.symm⟩

/-- The bits of a register for the channels, with two more. -/
theorem decode_saved (hchannels : RcChannels normalized) (b₇ b₈ : Bool) {x : Nat}
    (hx : x = setBits 0 (channelBits normalized) ||| bitIf b₇ 7 ||| bitIf b₈ 8) :
    decodeChannels x = normalized ∧ x.testBit 7 = b₇ ∧ x.testBit 8 = b₈ := by
  have hbit (n : Nat) : x.testBit n = (decide (n ∈ channelBits normalized) ||
      (b₇ && decide (n = 7)) || (b₈ && decide (n = 8))) := by
    rw [hx, Nat.testBit_or, Nat.testBit_or, testBit_bitIf, testBit_bitIf]
    congr 2
    rw [Bool.eq_iff_iff, testBit_setBits, decide_eq_true_iff]
    simp
  have hsmall : ∀ n ∈ channelBits normalized, n < 7 := by
    intro n hn
    obtain ⟨ch, hch, rfl⟩ := List.mem_map.1 hn
    have := hchannels.range ch hch
    omega
  have hno (n : Nat) (hn : 7 ≤ n) : decide (n ∈ channelBits normalized) = false :=
    decide_eq_false fun hmem => absurd (hsmall n hmem) (by omega)
  refine ⟨decodeChannels_eq hchannels.sorted hchannels.range fun n hn => ?_, ?_, ?_⟩
  · rw [hbit, decide_eq_false (show n ≠ 7 by omega), decide_eq_false (show n ≠ 8 by omega)]
    simp
  · rw [hbit, hno 7 (by omega)]
    simp
  · rw [hbit, hno 8 (by omega)]
    simp

theorem decode_timing (hvalid : c.Valid) {reg16 reg18 : Int}
    (h : timingRegisters c = some (reg16, reg18)) :
    5 * reg16 = c.windowNs ∧ 5 * reg18 = c.delayNs := by
  have htiming := hvalid.timing
  unfold timingRegisters at h
  split at h
  next hmode =>
    cases h
    rw [if_pos hmode] at htiming
    exact ⟨htiming.1.symm, htiming.2.symm⟩
  next hmode =>
    rw [if_neg hmode] at htiming
    rw [htiming] at h
    cases h
    unfold validTiming at htiming
    simp only [Bool.and_eq_true, decide_eq_true_eq] at htiming
    omega

/-- What is read in the registers of a configuration is the configuration. -/
theorem decode_written (hvalid : c.Valid) (hregs : buildTriggerRegisters c effectiveChannels = some r)
    (hw : Written r registers) :
    decodeTrigger registers = c ∧
      normalizedChannels effectiveChannels = some (decodeChannels (registers 19)) ∧
      normalizedChannels effectiveChannels = some (decodeChannels (registers 39)) := by
  obtain ⟨normalized, reg16, reg18, reg31, hnormalized, htiming, h31, rfl⟩ :=
    buildTriggerRegisters_eq_some hregs
  obtain ⟨previous, h15⟩ := hw.reg15
  have hbits : ∀ n, triggerReg15Mask.testBit n = true →
      (registers 15).testBit n = (reg15Value c).testBit n := fun n hn => testBit_reg15 h15 hn
  have hchannels := rcChannels_normalized hnormalized
  have hothers := hw.others
  simp only [List.forall_mem_cons] at hothers
  obtain ⟨hr16, hr18, hr19, hr31, hr39, -⟩ := hothers
  obtain ⟨hdecoded19, hexternal, hauto⟩ := decode_saved hchannels _ _ (Int.ofNat.inj hr19)
  obtain ⟨hdecoded39, -, -⟩ := decode_saved hchannels _ _ (Int.ofNat.inj hr39)
  obtain ⟨hwindow, hdelay⟩ := decode_timing hvalid htiming
  obtain ⟨hinput, hpolarity⟩ := decode_input hvalid hbits
  have hmode := decodeMode_eq hbits
  obtain rfl : registers 31 = reg31 := Int.ofNat.inj hr31
  obtain ⟨hlogic, hmultiplicity, hautoChannels⟩ := decode_logic hvalid h31
  refine ⟨?_, by rw [hdecoded19, hnormalized], by rw [hdecoded39, hnormalized]⟩
  unfold decodeTrigger
  dsimp only
  rw [hr16, hr18, hmode, hinput, hpolarity, hwindow, hdelay, hexternal, hauto, hlogic, hmultiplicity,
    hautoChannels]

/-! ## The values of the registers -/

theorem reg15Valid_trigger (c : TriggerConfiguration) :
    reg15Valid { mask := .int triggerReg15Mask, value := .int (reg15Value c) } =
      some (triggerReg15Mask, reg15Value c) := by
  unfold reg15Value
  cases c.mode <;> cases c.inputType <;> cases c.polarity <;> decide +kernel

/-- A value of nine bits fits into a register. -/
theorem le_max_of_testBit {x : Nat} (h : ∀ n, 9 ≤ n → x.testBit n = false) :
    0 ≤ (x : Int) ∧ (x : Int) ≤ maxRegisterValue := by
  have hlt : x < 2 ^ 9 := Nat.lt_pow_two_of_testBit x h
  unfold maxRegisterValue
  omega

theorem channelBits_lt (h : RcChannels normalized) {n : Nat} (hn : n ∈ channelBits normalized) :
    n < 7 := by
  obtain ⟨ch, hch, rfl⟩ := List.mem_map.1 hn
  have := h.range ch hch
  omega

/-- The bits of channels and two more. -/
theorem saved_le_max (h : RcChannels normalized) (b₇ b₈ : Bool) {x : Nat}
    (hx : x = setBits 0 (channelBits normalized) ||| bitIf b₇ 7 ||| bitIf b₈ 8) :
    0 ≤ (x : Int) ∧ (x : Int) ≤ maxRegisterValue := by
  refine le_max_of_testBit fun n hn => ?_
  rw [hx, Nat.testBit_or, Nat.testBit_or, testBit_bitIf, testBit_bitIf,
    decide_eq_false (show n ≠ 7 by omega), decide_eq_false (show n ≠ 8 by omega), Bool.and_false,
    Bool.and_false, Bool.or_false, Bool.or_false, ← Bool.not_eq_true, testBit_setBits, not_or]
  refine ⟨by simp, fun hmem => ?_⟩
  have := channelBits_lt h hmem
  omega

theorem reg31_le_max (hvalid : c.Valid) (h31 : reg31Value c normalized = some reg31) :
    0 ≤ (reg31 : Int) ∧ (reg31 : Int) ≤ maxRegisterValue := by
  have hlogic := hvalid.logic
  unfold reg31Value at h31
  split at h31
  next =>
    cases h31
    decide
  next hmode =>
    rw [if_pos (not_not.1 hmode)] at hlogic
    cases hlogic with
    | majority hmajority m hlow hhigh hmultiplicity hchannels =>
      rw [hmajority, hmultiplicity] at h31
      dsimp only at h31
      split_ifs at h31
      cases h31
      refine le_max_of_testBit fun n hn => ?_
      rw [← Bool.not_eq_true, testBit_setBits, not_or, List.mem_range]
      exact ⟨by simp, by omega⟩
    | exact hexact hmultiplicity chs hchs hchannels =>
      rw [hexact, hchannels] at h31
      dsimp only [Option.getD_some] at h31
      split_ifs at h31
      cases h31
      refine le_max_of_testBit fun n hn => ?_
      rw [← Bool.not_eq_true, testBit_setBits, not_or, testBit_one_shiftLeft, decide_eq_true_eq]
      refine ⟨by omega, fun hmem => ?_⟩
      have := channelBits_lt hchs hmem
      omega

/-- The registers that are asked for, of which only 16 and 18 may have a value that does not fit. -/
theorem registers_spec (hvalid : c.Valid) (hregs : buildTriggerRegisters c effectiveChannels = some r) :
    r.reg15Mask = triggerReg15Mask ∧ r.reg15Value = reg15Value c ∧
      r.registers.map Prod.fst = acqConfigRegisters ∧
      ((∀ e ∈ r.registers, 0 ≤ e.2 ∧ e.2 ≤ maxRegisterValue) ↔
        c.windowNs ≤ 5 * maxRegisterValue ∧ c.delayNs ≤ 5 * maxRegisterValue) := by
  obtain ⟨normalized, reg16, reg18, reg31, hnormalized, htiming, h31, rfl⟩ :=
    buildTriggerRegisters_eq_some hregs
  obtain ⟨hwindow, hdelay⟩ := decode_timing hvalid htiming
  have hchannels := rcChannels_normalized hnormalized
  have hnonneg : 0 ≤ c.windowNs ∧ 0 ≤ c.delayNs := by
    have h := hvalid.timing
    split at h
    · omega
    · simp only [validTiming, Bool.and_eq_true, decide_eq_true_eq] at h
      omega
  refine ⟨rfl, rfl, rfl, ?_⟩
  simp only [List.forall_mem_cons]
  constructor
  · rintro ⟨h16, h18, -⟩
    omega
  · rintro ⟨h16, h18⟩
    refine ⟨by omega, by omega, saved_le_max hchannels _ _ rfl, reg31_le_max hvalid h31,
      saved_le_max hchannels _ _ rfl, nofun⟩

end Decode

/-! ## The request -/

/-- The client sets every register of the request, and what they then hold is the configuration. -/
def TakenWhole (r : TriggerRegisters) (c : TriggerConfiguration) (effectiveChannels : List Int) :
    Prop :=
  ∀ w : World RcState RcCall, (w.state.registers 15 : Int) ≤ maxRegisterValue →
    ∃ (result : RcResult) (w' : World RcState RcCall),
      setAcqRegisters r.payload faultless w = (.ok result, w') ∧
      result.success = true ∧ result.failedRegisters = [] ∧
      (∀ e ∈ r.registers, PyVal.int e.1 ∈ result.successfulRegisters) ∧
      PyVal.int 15 ∈ result.successfulRegisters ∧ decodeTrigger w'.state.registers = c ∧
      normalizedChannels effectiveChannels = some (decodeChannels (w'.state.registers 19)) ∧
      normalizedChannels effectiveChannels = some (decodeChannels (w'.state.registers 39))

/-- The entries of a request as they arrive at the client. -/
def TriggerRegisters.entries (r : TriggerRegisters) : List (PyVal × PyVal) :=
  r.registers.map fun e => (.str (some e.1), .int e.2)

section Request

variable {c : TriggerConfiguration} {effectiveChannels : List Int} {r : TriggerRegisters}

theorem validEntry_of_fits {e : Int × Int} (haddress : e.1 ∈ acqConfigRegisters)
    (hfits : 0 ≤ e.2 ∧ e.2 ≤ maxRegisterValue) :
    validEntry (.str (some e.1), .int e.2) = some e :=
  if_pos ⟨haddress, hfits⟩

theorem validEntry_of_not_fits {e : Int × Int} (h : ¬(0 ≤ e.2 ∧ e.2 ≤ maxRegisterValue)) :
    validEntry (.str (some e.1), .int e.2) = none :=
  if_neg fun hvalid => h hvalid.2

/-- A request whose values fit is taken whole. -/
theorem takenWhole_of_fits (hvalid : c.Valid)
    (hregs : buildTriggerRegisters c effectiveChannels = some r)
    (hfits : ∀ e ∈ r.registers, 0 ≤ e.2 ∧ e.2 ≤ maxRegisterValue) :
    TakenWhole r c effectiveChannels := by
  intro w hword
  obtain ⟨hmask, hvalue, haddresses, -⟩ := registers_spec hvalid hregs
  have haddress : ∀ e ∈ r.registers, e.1 ∈ acqConfigRegisters := fun e he =>
    haddresses ▸ List.mem_map_of_mem he
  have hentry : ∀ e ∈ r.registers, validEntry (.str (some e.1), .int e.2) = some e := fun e he =>
    validEntry_of_fits (haddress e he) (hfits e he)
  have hnone : ∀ entry ∈ r.entries, validEntry entry ≠ none := by
    intro entry hmem hnone
    obtain ⟨e, he, rfl⟩ := List.mem_map.1 hmem
    exact nomatch (hentry e he).symm.trans hnone
  have hfilter : r.entries.filterMap validEntry = r.registers := by
    unfold TriggerRegisters.entries
    rw [List.filterMap_map]
    refine Eq.trans (List.filterMap_congr fun e he => ?_) List.filterMap_some
    exact hentry e he
  have hnodup : (r.registers.map Prod.fst).Nodup := by
    rw [haddresses]
    decide
  have hget : ∀ e ∈ r.registers, (normalizeRegisters r.entries).1.get? e.1 = some e.2 := by
    intro e he
    rw [normalizeRegisters, foldl_normalizeRegister, hfilter, Dict.get?_foldl_set, Dict.get?_empty,
      Option.or_none]
    refine (Dict.lookup_eq_some_iff ?_).2 (List.mem_reverse.2 he)
    rw [List.map_reverse]
    exact List.nodup_reverse.2 hnodup
  have hsucceeds (e : Int × Int) (he : e ∈ r.registers) :
      writeSucceeds faultless w e.1 e.2 = true := writeSucceeds_faultless (hentry e he)
  obtain ⟨ok, w₁, w', result, hrun, hregisters, ⟨hdone, hset⟩, hsuccessful, hfailed, hsuccess⟩ :=
    configureRegisters_run faultless w r.entries
      (some { mask := .int r.reg15Mask, value := .int r.reg15Value })
  have horder : ∀ e ∈ r.registers, e.1 ∈ acqRegisterWriteOrder := fun e he =>
    mem_order_of_valid (hentry e he)
  have h15 : (w₁.state.registers 15 : Int) ≤ maxRegisterValue := by
    rw [hregisters, if_neg (by decide)]
    exact hword
  have hreg15 : reg15Valid { mask := .int r.reg15Mask, value := .int r.reg15Value } =
      some (r.reg15Mask, r.reg15Value) := by
    rw [hmask, hvalue]
    exact reg15Valid_trigger c
  obtain ⟨rfl, hwritten⟩ := hset rfl h15 _ _ hreg15
  have hempty : result.failedRegisters = [] := by
    refine List.eq_nil_iff_forall_not_mem.2 fun v hv => ?_
    rcases (hfailed v).1 hv with hv | ⟨a, -, hwrite, -⟩ | ⟨hok, -⟩
    · obtain ⟨entry, he, hentry, -⟩ := mem_failed.1 hv
      exact hnone entry he hentry
    · obtain ⟨value, hvalue, hfalse⟩ := Option.map_eq_some_iff.1 hwrite
      obtain ⟨entry, -, hentry⟩ := validEntry_of_normalized hvalue
      rw [writeSucceeds_faultless hentry] at hfalse
      cases hfalse
    · cases hok
  have hholds : Written r w'.state.registers := by
    refine ⟨⟨_, hwritten⟩, fun e he => ?_⟩
    have hne : e.1 ≠ 15 := fun heq => absurd (heq ▸ haddress e he) (by decide)
    rw [hdone.others e.1 hne, hregisters, if_pos (horder e he), hget e he, written,
      if_pos (hsucceeds e he)]
    exact Int.toNat_of_nonneg (hfits e he).1
  obtain ⟨hdecoded, h19, h39⟩ := decode_written hvalid hregs hholds
  refine ⟨result, w', hrun, ?_, hempty, fun e he => ?_, ?_, hdecoded, h19, h39⟩
  · rw [hsuccess, hempty]
    rfl
  · refine (hsuccessful _).2 (.inl ⟨e.1, horder e he, ?_, rfl⟩)
    rw [hget e he, Option.map_some, hsucceeds e he]
  · exact (hsuccessful _).2 (.inr ⟨Option.some_ne_none _, rfl, rfl⟩)

/-- A request with a value that does not fit is not. -/
theorem fits_of_takenWhole (h : TakenWhole r c effectiveChannels) :
    ∀ e ∈ r.registers, 0 ≤ e.2 ∧ e.2 ≤ maxRegisterValue := by
  intro e he
  by_contra hnot
  obtain ⟨result, w', hrun, -, hempty, -⟩ := h zeroed (by decide)
  obtain ⟨ok, w₁, w'', result', hrun', -, -, -, hfailed, -⟩ :=
    configureRegisters_run faultless zeroed r.entries
      (some { mask := .int r.reg15Mask, value := .int r.reg15Value })
  cases hrun.symm.trans hrun'
  have hmem : entryName (.str (some e.1)) ∈ result.failedRegisters :=
    (hfailed _).2 (.inl (mem_failed.2 ⟨_, List.mem_map_of_mem he, validEntry_of_not_fits hnot, rfl⟩))
  rw [hempty] at hmem
  cases hmem

end Request

/-- The client takes the whole of a configuration that the server has accepted, and gives it back,
exactly when window and delay fit into a register. -/
theorem trigger_registers_accepted_iff {args : TriggerArgs} {c : TriggerConfiguration}
    {effectiveChannels : List Int} {r : TriggerRegisters}
    (hbuild : buildTriggerConfiguration args = some c)
    (hregs : buildTriggerRegisters c effectiveChannels = some r) :
    TakenWhole r c effectiveChannels ↔ args.triggerMode = "self" ∨
      args.windowNs ≤ 5 * maxRegisterValue ∧ args.delayNs ≤ 5 * maxRegisterValue := by
  obtain ⟨hvalid, htiming⟩ := buildTriggerConfiguration_spec hbuild
  obtain ⟨-, -, -, hfits⟩ := registers_spec hvalid hregs
  have htaken : TakenWhole r c effectiveChannels ↔
      c.windowNs ≤ 5 * maxRegisterValue ∧ c.delayNs ≤ 5 * maxRegisterValue :=
    ⟨fun h => hfits.1 (fits_of_takenWhole h), fun h => takenWhole_of_fits hvalid hregs (hfits.2 h)⟩
  rw [htaken]
  split at htiming
  next hself =>
    rw [htiming.1, htiming.2]
    exact iff_of_true (by decide) (.inl hself)
  next hself =>
    rw [htiming.1, htiming.2, or_iff_right hself]

/-- An external trigger with this window and a delay of 800 ns. -/
private def externalArgs (windowNs : Int) : TriggerArgs where
  triggerMode := "external"
  windowNs := windowNs
  delayNs := 800
  triggerInput := "single-ended"
  polarity := "default"
  autoLogic := ""
  multiplicity := none
  channels := none
  saveExternal := false
  saveAuto := false

private def externalConfiguration (windowNs : Int) : TriggerConfiguration where
  mode := .external
  inputType := .singleEnded
  polarity := .default
  windowNs := windowNs
  delayNs := 800
  autoLogic := none
  multiplicity := none
  autoChannels := none
  saveExternal := true
  saveAuto := false

private def externalRegisters (reg16 : Int) : TriggerRegisters where
  reg15Mask := 402
  reg15Value := 130
  registers := [(16, reg16), (18, 160), (19, 0b10000101), (31, 15), (39, 0b110000101)]

theorem trigger_registers_accepted_external :
    TakenWhole (externalRegisters 80) (externalConfiguration 400) [2, 0] :=
  (@trigger_registers_accepted_iff (externalArgs 400) _ _ _ (by decide +kernel)
    (by decide +kernel)).2 (.inr (by decide))

/-- A window of 2³² units: all registers but the one of the window are set. -/
theorem window_refused :
    ∃ (args : TriggerArgs) (c : TriggerConfiguration) (r : TriggerRegisters) (result : RcResult)
      (w' : World RcState RcCall),
      args.windowNs = 21474836480 ∧ buildTriggerConfiguration args = some c ∧
      buildTriggerRegisters c [2, 0] = some r ∧
      setAcqRegisters r.payload faultless zeroed = (.ok result, w') ∧ result.success = false ∧
      result.failedRegisters = [.int 16] ∧
      result.successfulRegisters = [.int 18, .int 31, .int 39, .int 19, .int 15] ∧
      ¬TakenWhole r c [2, 0] := by
  refine ⟨externalArgs 21474836480, externalConfiguration 21474836480,
    externalRegisters 4294967296,
    { success := false
      successfulRegisters := [.int 18, .int 31, .int 39, .int 19, .int 15]
      failedRegisters := [.int 16] },
    (setAcqRegisters (externalRegisters 4294967296).payload faultless zeroed).2, rfl,
    by decide +kernel, by decide +kernel, Prod.ext (by decide +kernel) rfl, rfl, rfl, rfl,
    fun h => ?_⟩
  exact absurd (fits_of_takenWhole h (16, 4294967296) List.mem_cons_self).2 (by decide)

end MultiDAQ.Server
